import DocumentRules.Format.Address
import DocumentRules.Format.Calendar
import DocumentRules.Format.Numeric
import DocumentRules.Format.Uuid
import DocumentRules.Pattern.Matcher
import DocumentRules.Predicate.Basic

/-!
The predicates that schemas can name. The text predicates are meant for texts and
break down on most other subjects; the core predicates judge the value as it is.
Every predicate checks the number of its arguments first.
-/

set_option autoImplicit false

namespace DocumentRules.Predicate

open Text Format Pattern

def size? : Value → Option Nat
  | .text value => some value.length
  | .list items => some items.length
  | .mapping entries => some entries.length
  | _ => none

def reaches (length : Nat) (bound : Value) : Except Breakdown Bool :=
  match bound.numeral? with
  | none => .error .unsuitableKind
  | some number =>
      .ok (match Numeral.compare? (.integer length) number with
        | some order => order != .lt
        | none => false)

def staysBelow (length : Nat) (bound : Value) : Except Breakdown Bool :=
  match bound.numeral? with
  | none => .error .unsuitableKind
  | some number =>
      .ok (match Numeral.compare? (.integer length) number with
        | some order => order != .gt
        | none => false)

/-- The upper bound is looked at only where the lower one is reached; null bounds nothing. -/
def liesBetween (length : Nat) (low high : Value) : Except Breakdown Bool := do
  if ← reaches length low then
    match high with
    | .null => return true
    | bound => staysBelow length bound
  else return false

def equalsTest (subject : Value) : List Value → Except Breakdown Bool
  | [other] => .ok (subject.equals other)
  | _ => .error .argumentCount

/-- The display form of the argument occurs in a text, or is an element or a key. -/
def containsTest (subject : Value) : List Value → Except Breakdown Bool
  | [part] =>
      if part.isWritable then
        match subject with
        | .text value => .ok (occursIn part.display.toList value.toList)
        | .list items => .ok (items.any fun item => item.equals (.text part.display))
        | .mapping entries => .ok ((Datum.entry? part.display entries).isSome)
        | _ => .error .unsuitableKind
      else .error .tooManyDigits
  | _ => .error .argumentCount

/-- The letters of the flags: the characters of a text, the elements of a list or the keys of
a mapping. Nothing is asked of flags that do not hold. -/
def flagLetters (flags : Value) : Except Breakdown (List String) :=
  if !flags.holds then .ok []
  else
    match flags with
    | .text value => .ok (value.toList.map String.singleton)
    | .mapping entries => .ok (entries.map Prod.fst)
    | .list items =>
        if items.all Datum.isHashable then
          .ok (items.filterMap fun item =>
            match item with
            | .text value => some value
            | _ => none)
        else .error .unhashable
    | _ => .error .unsuitableKind

/-- Letters without a meaning are passed over. -/
def flagsOf (letters : List String) : Flags where
  ignoreCase := letters.contains "i"
  multiline := letters.contains "m"
  dotAll := letters.contains "s"
  verbose := letters.contains "x"

def compiled (pattern flags : Value) : Except Breakdown Node := do
  let letters ← flagLetters flags
  match pattern with
  | .text value =>
      match Pattern.read value.toList (flagsOf letters) with
      | .ok node => return node
      | .error error => throw (.badPattern error)
  | _ => throw .unsuitableKind

def searchTest (subject pattern flags : Value) : Except Breakdown Bool := do
  let node ← compiled pattern flags
  match subject with
  | .text value => return node.search value.toList
  | _ => throw .unsuitableKind

def matchesTest (subject : Value) : List Value → Except Breakdown Bool
  | [pattern] => searchTest subject pattern .null
  | [pattern, flags] => searchTest subject pattern flags
  | _ => .error .argumentCount

def avoidsTest (subject : Value) (arguments : List Value) : Except Breakdown Bool :=
  (matchesTest subject arguments).map fun found => !found

/-- The number of characters lies between two bounds; the lower one is zero if not given. -/
def lengthTest (subject : Value) (arguments : List Value) : Except Breakdown Bool :=
  if 2 < arguments.length then .error .argumentCount
  else
    match size? subject with
    | none => .error .unsuitableKind
    | some length =>
        liesBetween length (arguments.head?.getD (.integer 0)) ((arguments.drop 1).head?.getD .null)

def textTest (otherwise : Breakdown) (test : List Char → Bool) (subject : Value) :
    List Value → Except Breakdown Bool
  | [] =>
      match subject with
      | .text value => .ok (test value.toList)
      | _ => .error otherwise
  | _ => .error .argumentCount

/-- A test that no other kind of subject passes. -/
def textOnlyTest (test : List Char → Bool) (subject : Value) :
    List Value → Except Breakdown Bool
  | [] =>
      match subject with
      | .text value => .ok (test value.toList)
      | _ => .ok false
  | _ => .error .argumentCount

/-- The length is looked at before the form, so a long container is simply refused. -/
def mailTest (subject : Value) (arguments : List Value) : Except Breakdown Bool :=
  match arguments, size? subject with
  | [], some length =>
      if 254 < length then .ok false else textTest .unsuitableKind isMailAddress subject []
  | _, _ => textTest .unsuitableKind isMailAddress subject arguments

/-- Of the subjects that are not texts, null is refused in its own way. -/
def uuidTest (subject : Value) (arguments : List Value) : Except Breakdown Bool :=
  match subject with
  | .null => textTest .unsuitableKind isUuid subject arguments
  | _ => textTest .lackingOperation isUuid subject arguments

def booleanWords : List String := ["true", "false", "1", "0"]

def isBooleanWord (text : List Char) : Bool := booleanWords.any fun word => word.toList == text

def isLowercase (text : List Char) : Bool := text.all fun c => staysLower c.toNat

def isUppercase (text : List Char) : Bool := text.all fun c => staysUpper c.toNat

/-- The subject is the display form of one of the arguments. -/
def amongTest (subject : Value) (arguments : List Value) : Except Breakdown Bool :=
  if arguments.all Datum.isWritable then
    .ok (arguments.any fun option => subject.equals (.text option.display))
  else .error .tooManyDigits

def allowedKeysTest (subject : Value) (arguments : List Value) : Except Breakdown Bool :=
  match subject with
  | .mapping entries =>
      if arguments.all Datum.isHashable then
        .ok (entries.all fun entry => arguments.any fun key => (Datum.text entry.1).equals key)
      else .error .unhashable
  | _ => .ok false

def sizeTest (subject : Value) (arguments : List Value) : Except Breakdown Bool :=
  match arguments with
  | [low] => between low .null
  | [low, high] => between low high
  | _ => .error .argumentCount
where
  between (low high : Value) : Except Breakdown Bool :=
    match subject with
    | .list items => liesBetween items.length low high
    | _ => .ok false

def isTextTest (subject : Value) : List Value → Except Breakdown Bool
  | [] =>
      match subject with
      | .text _ => .ok true
      | _ => .ok false
  | _ => .error .argumentCount

def ofTest (test : Value → List Value → Except Breakdown Bool) : Predicate where
  answer := fun subject arguments => .ofTest (test subject arguments)

def textPredicates : List (String × Predicate) :=
  [("equals", ofTest equalsTest),
   ("contains", ofTest containsTest),
   ("matches", ofTest matchesTest),
   ("is", ofTest matchesTest),
   ("not", ofTest avoidsTest),
   ("len", ofTest lengthTest),
   ("isEmail", ofTest mailTest),
   ("isURL", ofTest (textTest .unsuitableKind isWebAddress)),
   ("isUUID", ofTest uuidTest),
   ("isDate", ofTest (textOnlyTest isDateOrMoment)),
   ("isISO8601", ofTest (textOnlyTest isDateOrMoment)),
   ("isBoolean", ofTest (textOnlyTest isBooleanWord)),
   ("isInt", ofTest (textTest .unsuitableKind isWholeNumber)),
   ("isFloat", ofTest (textTest .unsuitableKind isDecimal)),
   ("isNumeric", ofTest (textTest .unsuitableKind isNumeral)),
   ("isAlpha", ofTest (textTest .unsuitableKind isAlphabetic)),
   ("isAlphanumeric", ofTest (textTest .unsuitableKind isAlphanumericText)),
   ("isLowercase", ofTest (textTest .lackingOperation isLowercase)),
   ("isUppercase", ofTest (textTest .lackingOperation isUppercase)),
   ("isIn", ofTest amongTest),
   ("isEmpty", ofTest (textOnlyTest List.isEmpty))]

def corePredicates : List (String × Predicate) :=
  [("allowedKeys", ofTest allowedKeysTest),
   ("size", ofTest sizeTest),
   ("isString", ofTest isTextTest)]

end DocumentRules.Predicate
