import DocumentRules.Format.Line

/-!
Dates and times of the day. A date names a day of the proleptic Gregorian calendar
in the years 1 to 9999. A moment is a date, a time with an optional fraction of up to
six digits, and a zone whose distance from Greenwich is less than a day; the minutes
of a zone may exceed 59. Only Latin digits count, and nothing may follow.
-/

set_option autoImplicit false

namespace DocumentRules.Format

def isLeapYear (year : Nat) : Bool :=
  year % 4 == 0 && (year % 100 != 0 || year % 400 == 0)

def daysIn (year month : Nat) : Nat :=
  if month == 2 then (if isLeapYear year then 29 else 28)
  else if month == 4 || month == 6 || month == 9 || month == 11 then 30
  else 31

def isDay (year month day : Nat) : Bool :=
  1 ≤ year && 1 ≤ month && month ≤ 12 && 1 ≤ day && day ≤ daysIn year month

def latinDigit? (c : Char) : Option Nat := if isLatinDigit c then some (c.toNat - 48) else none

/-- Reads a number of exactly so many digits from the front of a text. -/
def readNumber : (count : Nat) → (value : Nat) → List Char → Option (Nat × List Char)
  | 0, value, rest => some (value, rest)
  | _ + 1, _, [] => none
  | count + 1, value, c :: rest =>
      match latinDigit? c with
      | some digit => readNumber count (value * 10 + digit) rest
      | none => none

def readMark (mark : Char) : List Char → Option (List Char)
  | [] => none
  | c :: rest => if c = mark then some rest else none

def afterDate? (text : List Char) : Option (List Char) := do
  let (year, text) ← readNumber 4 0 text
  let text ← readMark '-' text
  let (month, text) ← readNumber 2 0 text
  let text ← readMark '-' text
  let (day, text) ← readNumber 2 0 text
  if isDay year month day then some text else none

def afterTime? (text : List Char) : Option (List Char) := do
  let (hour, text) ← readNumber 2 0 text
  let text ← readMark ':' text
  let (minute, text) ← readNumber 2 0 text
  let text ← readMark ':' text
  let (second, text) ← readNumber 2 0 text
  if hour ≤ 23 && minute ≤ 59 && second ≤ 59 then some text else none

/-- What follows a fraction of a second, which may be missing. -/
def afterFraction? (text : List Char) : Option (List Char) :=
  match text with
  | '.' :: rest =>
      let digits := rest.takeWhile isLatinDigit
      if digits.isEmpty || 6 < digits.length then none else some (rest.drop digits.length)
  | _ => some text

def isZoneDistance (text : List Char) : Bool :=
  match (do
    let (hours, text) ← readNumber 2 0 text
    let text ← readMark ':' text
    let (minutes, text) ← readNumber 2 0 text
    return (hours * 60 + minutes, text)) with
  | some (distance, []) => distance < 1440
  | _ => false

def isZone : List Char → Bool
  | ['Z'] => true
  | '+' :: rest => isZoneDistance rest
  | '-' :: rest => isZoneDistance rest
  | _ => false

def isMoment (text : List Char) : Bool :=
  match (do
    let text ← afterDate? text
    let text ← readMark 'T' text
    let text ← afterTime? text
    afterFraction? text) with
  | some zone => isZone zone
  | none => false

def isDateOrMoment (text : List Char) : Bool :=
  match afterDate? text with
  | some [] => true
  | _ => isMoment text

end DocumentRules.Format
