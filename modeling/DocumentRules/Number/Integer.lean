import DocumentRules.Text.Blank
import DocumentRules.Text.Digit

/-!
Whole numbers as text. Writing gives the shortest decimal form with a minus sign
where needed. Reading is lenient: blanks may surround the number, a sign may lead
it, single low lines may separate digits, and digits of every decimal system count.
A decimal text with more than `digitLimit` digits is not read.
-/

set_option autoImplicit false

namespace DocumentRules.Number

open DocumentRules.Text

def naturalChars (value : Nat) : List Char := Nat.toDigits 10 value

def integerChars (value : Int) : List Char :=
  match value with
  | .ofNat magnitude => naturalChars magnitude
  | .negSucc below => '-' :: naturalChars (below + 1)

def integerText (value : Int) : String := String.ofList (integerChars value)

def naturalText (value : Nat) : String := String.ofList (naturalChars value)

/-- The most decimal digits that are converted, in either direction. -/
def digitLimit : Nat := 4300

def digitMessage (detail : String) : String :=
  "Exceeds the limit (" ++ naturalText digitLimit ++ " digits) for integer string conversion" ++
    detail ++ "; use sys.set_int_max_str_digits() to increase the limit"

/-- What is said of a number that is written with too many digits to be read. -/
def unreadMessage (count : Nat) : String :=
  digitMessage (": value has " ++ naturalText count ++ " digits")

/-- What is said of a number that has too many digits to be written. -/
def unwrittenMessage : String := digitMessage ""

/-- Seven-bit characters stand for themselves, other blanks for a space and other digits for
their value; no other character can occur in a number. -/
def plainForm? (c : Char) : Option Char :=
  if c.toNat < 127 then some c
  else if isBlank c.toNat then some ' '
  else (digitValue? c.toNat).map fun value => Char.ofNat (48 + value)

def skipPlainBlanks (text : List Char) : List Char :=
  text.dropWhile fun c => isPlainBlank c.toNat

def digitBelow? (base : Nat) (c : Char) : Option Nat :=
  (hexDigitValue? c.toNat).filter fun value => value < base

/-- Reads digits up to the end of the text or to blanks that reach it. `afterDigit` tells
whether the last character read was a digit; a low line has to follow and precede one. -/
def readDigits (base : Nat) : List Char → (afterDigit : Bool) → (count value : Nat) →
    Option (Nat × Nat)
  | [], afterDigit, count, value => if afterDigit then some (count, value) else none
  | c :: rest, afterDigit, count, value =>
      match digitBelow? base c with
      | some digit => readDigits base rest true (count + 1) (value * base + digit)
      | none =>
          if c == '_' then
            if afterDigit then readDigits base rest false count value else none
          else if afterDigit && (c :: rest).all (fun d => isPlainBlank d.toNat) then
            some (count, value)
          else none

/-- In base sixteen a marker may stand before the digits, with a low line after it. -/
def skipBaseMarker (base : Nat) (text : List Char) : List Char :=
  match base, text with
  | 16, '0' :: marker :: rest =>
      if marker == 'x' || marker == 'X' then
        match rest with
        | '_' :: digits => digits
        | digits => digits
      else text
  | _, _ => text

def readMagnitude (base : Nat) (text : List Char) : Option Nat :=
  match readDigits base (skipBaseMarker base text) false 0 0 with
  | some (count, value) => if base == 10 && digitLimit < count then none else some value
  | none => none

def readSigned (base : Nat) (text : List Char) : Option Int :=
  match text with
  | '+' :: digits => (readMagnitude base digits).map Int.ofNat
  | '-' :: digits => (readMagnitude base digits).map fun value => -(Int.ofNat value)
  | digits => (readMagnitude base digits).map Int.ofNat

def readInteger (base : Nat) (text : List Char) : Option Int :=
  match text.mapM plainForm? with
  | some plain => readSigned base (skipPlainBlanks plain)
  | none => none

end DocumentRules.Number
