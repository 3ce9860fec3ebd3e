import DocumentRules.Number.Integer
import DocumentRules.Text.Quoted
import DocumentRules.Value.Basic

/-!
Reading JSON text. Beside the standard, the reader knows the three words for
infinities and for what is not a number, and it reads a number too large for a
floating-point number as an infinity. A mapping keeps the first place and the last
datum of a repeated key. Every refusal names a place in the text. A step into a
list or mapping consumes at least one character, so twice the length of the text
bounds the depth of the reader.

The code of half of a surrogate pair is no character. A text in which one stands alone
is not followed any further: the reader gives up with a stop of its own, which tells
nothing about the rest.
-/

set_option autoImplicit false

namespace DocumentRules.Json

open Number Text

inductive Problem where
  | value
  | propertyName
  | colon
  | comma
  | unterminatedText
  | controlCharacter
  | escape
  | unicodeEscape
  | extraData
  | byteOrderMark
  deriving DecidableEq, Repr

def Problem.message : Problem → String
  | .value => "Expecting value"
  | .propertyName => "Expecting property name enclosed in double quotes"
  | .colon => "Expecting ':' delimiter"
  | .comma => "Expecting ',' delimiter"
  | .unterminatedText => "Unterminated string starting at"
  | .controlCharacter => "Invalid control character at"
  | .escape => "Invalid \\escape"
  | .unicodeEscape => "Invalid \\uXXXX escape"
  | .extraData => "Extra data"
  | .byteOrderMark => "Unexpected UTF-8 BOM (decode using utf-8-sig)"

/-- Why and where reading stopped; the place is given by how much text is left there. -/
inductive Stop where
  | problem (which : Problem) (remaining : Nat)
  | tooManyDigits (count : Nat)
  /-- A text holds half of a surrogate pair without the other half. -/
  | halfPair
  deriving DecidableEq, Repr

inductive Refusal where
  | problem (which : Problem) (line column offset : Nat)
  | tooManyDigits (count : Nat)
  | halfPair
  deriving DecidableEq, Repr

def stopAt {α : Type} (which : Problem) (rest : List Char) : Except Stop α :=
  .error (.problem which rest.length)

def isJsonBlank (c : Char) : Bool := c == ' ' || c == '\t' || c == '\n' || c == '\r'

def skipBlanks (text : List Char) : List Char := text.dropWhile isJsonBlank

def isJsonDigit (c : Char) : Bool := isPlainDigit c.toNat

def digitsValue (digits : List Char) : Nat :=
  digits.foldl (fun value c => value * 10 + (c.toNat - 48)) 0

/-! ## Texts -/

def unit? (first second third fourth : Char) : Option Nat := do
  let a ← hexDigitValue? first.toNat
  let b ← hexDigitValue? second.toNat
  let c ← hexDigitValue? third.toNat
  let d ← hexDigitValue? fourth.toNat
  return ((a * 16 + b) * 16 + c) * 16 + d

def isHighSurrogate (unit : Nat) : Bool := 55296 ≤ unit && unit ≤ 56319

def isLowSurrogate (unit : Nat) : Bool := 56320 ≤ unit && unit ≤ 57343

def joinSurrogates (high low : Nat) : Char :=
  Char.ofNat (65536 + (high - 55296) * 1024 + (low - 56320))

/-- A code unit as a character. A surrogate without its partner is none. -/
def unitChar? (unit : Nat) : Option Char :=
  if isHighSurrogate unit || isLowSurrogate unit then none else some (Char.ofNat unit)

/-- The characters that follow a backslash and what they stand for. -/
def shortEscape? (c : Char) : Option Char :=
  match c with
  | '"' => some '"'
  | '\\' => some '\\'
  | '/' => some '/'
  | 'b' => some (Char.ofNat 8)
  | 'f' => some (Char.ofNat 12)
  | 'n' => some '\n'
  | 'r' => some '\r'
  | 't' => some '\t'
  | _ => none

/-- One element of a written text: a character, or a code unit given by its digits. -/
inductive TextUnit where
  | char (c : Char)
  | code (unit : Nat)
  deriving DecidableEq

def consUnit (unit : TextUnit) (read : Except Stop (List TextUnit × List Char)) :
    Except Stop (List TextUnit × List Char) :=
  read.map fun (units, rest) => (unit :: units, rest)

/-- The elements of a text after its opening quote, and what follows the closing one.
`opening` is the amount of text left at the opening quote. -/
def readUnits (opening : Nat) : List Char → Except Stop (List TextUnit × List Char)
  | [] => .error (.problem .unterminatedText opening)
  | '"' :: rest => .ok ([], rest)
  | ['\\'] => .error (.problem .unterminatedText opening)
  | '\\' :: 'u' :: a :: b :: c :: d :: rest =>
      match rest.isEmpty, unit? a b c d with
      | false, some unit => consUnit (.code unit) (readUnits opening rest)
      | _, _ => stopAt .unicodeEscape ('u' :: a :: b :: c :: d :: rest)
  | '\\' :: 'u' :: rest => stopAt .unicodeEscape ('u' :: rest)
  | '\\' :: c :: rest =>
      match shortEscape? c with
      | some meant => consUnit (.char meant) (readUnits opening rest)
      | none => stopAt .escape ('\\' :: c :: rest)
  | c :: rest =>
      if c.toNat < 32 then stopAt .controlCharacter (c :: rest)
      else consUnit (.char c) (readUnits opening rest)

/-- The characters that the elements of a text stand for, if they stand for any. Two surrogates
in a row make one character. -/
def joinUnits? : List TextUnit → Option (List Char)
  | [] => some []
  | .char c :: rest => (joinUnits? rest).map (c :: ·)
  | .code high :: .code low :: rest =>
      if isHighSurrogate high && isLowSurrogate low then
        (joinUnits? rest).map (joinSurrogates high low :: ·)
      else (unitChar? high).bind fun c => (joinUnits? (.code low :: rest)).map (c :: ·)
  | .code unit :: rest => (unitChar? unit).bind fun c => (joinUnits? rest).map (c :: ·)

def readText (opening : Nat) (text : List Char) : Except Stop (List Char × List Char) :=
  (readUnits opening text).bind fun (units, rest) =>
    match joinUnits? units with
    | some chars => .ok (chars, rest)
    | none => .error .halfPair

/-! ## Numbers -/

structure NumberText where
  negative : Bool
  whole : List Char
  fraction : Option (List Char)
  exponent : Option (Bool × List Char)

def takeDigits (text : List Char) : List Char × List Char := text.span isJsonDigit

/-- One zero, or digits that do not begin with zero. -/
def wholePart? : List Char → Option (List Char × List Char)
  | '0' :: rest => some (['0'], rest)
  | text =>
      match takeDigits text with
      | ([], _) => none
      | found => some found

/-- A point counts only with a digit after it. -/
def fractionPart (text : List Char) : Option (List Char) × List Char :=
  match text with
  | '.' :: rest =>
      match takeDigits rest with
      | ([], _) => (none, text)
      | (digits, after) => (some digits, after)
  | _ => (none, text)

def exponentSign : List Char → Bool × List Char
  | '-' :: rest => (true, rest)
  | '+' :: rest => (false, rest)
  | text => (false, text)

/-- An exponent mark counts only with a digit after it and its sign. -/
def exponentPart (text : List Char) : Option (Bool × List Char) × List Char :=
  match text with
  | mark :: rest =>
      if mark == 'e' || mark == 'E' then
        let (negative, rest) := exponentSign rest
        match takeDigits rest with
        | ([], _) => (none, text)
        | (digits, after) => (some (negative, digits), after)
      else (none, text)
  | [] => (none, text)

def numberText? (text : List Char) : Option (NumberText × List Char) := do
  let (negative, unsigned) :=
    match text with
    | '-' :: rest => (true, rest)
    | _ => (false, text)
  let (whole, rest) ← wholePart? unsigned
  let (fraction, rest) := fractionPart rest
  let (exponent, rest) := exponentPart rest
  return (⟨negative, whole, fraction, exponent⟩, rest)

/-- A fraction or an exponent makes a number a floating-point number. -/
def NumberText.value {κ : Type} (number : NumberText) : Except Stop (Datum κ) :=
  match number.fraction, number.exponent with
  | none, none =>
      if digitLimit < number.whole.length then .error (.tooManyDigits number.whole.length)
      else
        let magnitude : Int := digitsValue number.whole
        .ok (.integer (if number.negative then -magnitude else magnitude))
  | fraction, exponent =>
      let places := fraction.getD []
      let digits := (number.whole ++ places).dropWhile fun c => c == '0'
      let power : Int :=
        match exponent with
        | some (negative, chars) =>
            if negative then -(digitsValue chars : Int) else digitsValue chars
        | none => 0
      .ok (.float
        (Binary64.ofDecimal number.negative (digitsValue digits) digits.length
          (power - places.length)))

/-! ## Data -/

variable {κ : Type}

def words : List (List Char × Datum κ) :=
  [("null".toList, .null), ("true".toList, .bool true), ("false".toList, .bool false),
   ("NaN".toList, .float .nan), ("Infinity".toList, .float (.infinite false)),
   ("-Infinity".toList, .float (.infinite true))]

def readWord (text : List Char) : Option (Datum κ × List Char) :=
  (words.find? fun entry => entry.1.isPrefixOf text).map fun (word, datum) =>
    (datum, text.drop word.length)

def readScalar (text : List Char) : Except Stop (Datum κ × List Char) :=
  match readWord text with
  | some found => .ok found
  | none =>
      match numberText? text with
      | some (number, rest) => number.value.map fun datum => (datum, rest)
      | none => stopAt .value text

/-- The mapping with the given members, taken in order. -/
def collected (members : List (String × Datum κ)) : Datum κ :=
  .mapping (members.foldl (fun entries member => Datum.insertEntry member.1 member.2 entries) [])

def readColon (text : List Char) : Except Stop (List Char) :=
  match skipBlanks text with
  | ':' :: rest => .ok (skipBlanks rest)
  | rest => stopAt .colon rest

mutual

def readDatum : Nat → List Char → Except Stop (Datum κ × List Char)
  | 0, text => stopAt .value text
  | fuel + 1, text =>
      match text with
      | '"' :: rest => do
          let (chars, after) ← readText text.length rest
          return (.text (String.ofList chars), after)
      | '[' :: rest =>
          match skipBlanks rest with
          | ']' :: after => .ok (.list [], after)
          | start => do
              let (items, after) ← readItems fuel start
              return (.list items, after)
      | '{' :: rest =>
          match skipBlanks rest with
          | '}' :: after => .ok (.mapping [], after)
          | start => do
              let (members, after) ← readMembers fuel start
              return (collected members, after)
      | _ => readScalar text

/-- Items up to the closing bracket, of which there is at least one. -/
def readItems : Nat → List Char → Except Stop (List (Datum κ) × List Char)
  | 0, text => stopAt .value text
  | fuel + 1, text => do
      let (item, rest) ← readDatum fuel text
      match skipBlanks rest with
      | ']' :: after => return ([item], after)
      | ',' :: more =>
          let (items, after) ← readItems fuel (skipBlanks more)
          return (item :: items, after)
      | wrong => stopAt .comma wrong

/-- Members up to the closing brace, of which there is at least one. -/
def readMembers : Nat → List Char → Except Stop (List (String × Datum κ) × List Char)
  | 0, text => stopAt .propertyName text
  | fuel + 1, text =>
      match text with
      | '"' :: rest => do
          let (chars, afterName) ← readText text.length rest
          let start ← readColon afterName
          let (item, rest) ← readDatum fuel start
          let member := (String.ofList chars, item)
          match skipBlanks rest with
          | '}' :: after => return ([member], after)
          | ',' :: more =>
              let (members, after) ← readMembers fuel (skipBlanks more)
              return (member :: members, after)
          | wrong => stopAt .comma wrong
      | wrong => stopAt .propertyName wrong

end

/-- A datum with blanks around it and nothing else. -/
def readWhole (text : List Char) : Except Stop (Datum κ) := do
  if text.head? == some (Char.ofNat 65279) then stopAt .byteOrderMark text
  else
    let (datum, rest) ← readDatum (2 * text.length + 2) (skipBlanks text)
    match skipBlanks rest with
    | [] => return datum
    | extra => stopAt .extraData extra

/-- The place after a number of characters: its line, counted from one, and its column. -/
def lineAndColumn (text : List Char) (offset : Nat) : Nat × Nat :=
  let before := text.take offset
  (before.count '\n' + 1, (before.reverse.takeWhile fun c => c != '\n').length + 1)

def Stop.inText (text : List Char) : Stop → Refusal
  | .problem which remaining =>
      let offset := text.length - remaining
      let (line, column) := lineAndColumn text offset
      .problem which line column offset
  | .tooManyDigits count => .tooManyDigits count
  | .halfPair => .halfPair

def read (text : String) : Except Refusal (Datum κ) :=
  (readWhole text.toList).mapError fun stop => stop.inText text.toList

def Refusal.message : Refusal → String
  | .problem which line column offset =>
      which.message ++ ": line " ++ naturalText line ++ " column " ++ naturalText column ++
        " (char " ++ naturalText offset ++ ")"
  | .tooManyDigits count => unreadMessage count
  | .halfPair => ""

end DocumentRules.Json
