import DocumentRules.Value.Display

/-!
Writing data as JSON text, either on one line without blanks or with every item on a
line of its own. Characters beyond the seven-bit ones stand for themselves; the
quote, the backslash and the controls are escaped.
-/

set_option autoImplicit false

namespace DocumentRules.Json

open Number Text

variable {κ : Type}

def numbers : NumberLayout where
  positionalFrom := -4
  positionalBelow := 16
  exponentDigits := 2
  notANumber := "NaN"
  infinity := "Infinity"
  negativeInfinity := "-Infinity"

def escapedChar (c : Char) : List Char :=
  if c == '"' then ['\\', '"']
  else if c == '\\' then ['\\', '\\']
  else if c == '\n' then ['\\', 'n']
  else if c == '\r' then ['\\', 'r']
  else if c == '\t' then ['\\', 't']
  else if c.toNat == 8 then ['\\', 'b']
  else if c.toNat == 12 then ['\\', 'f']
  else if c.toNat < 32 then '\\' :: 'u' :: hexDigits 4 c.toNat
  else [c]

def textChars (text : String) : List Char := '"' :: text.toList.flatMap escapedChar ++ ['"']

/-- How items are set apart: the columns a level is indented by, or nothing for one line. -/
structure Layout where
  indent : Option Nat

def oneLine : Layout := ⟨none⟩

def indented : Layout := ⟨some 2⟩

namespace Layout

def lineBreak (layout : Layout) (level : Nat) : List Char :=
  match layout.indent with
  | some width => '\n' :: List.replicate (width * level) ' '
  | none => []

def colon (layout : Layout) : List Char :=
  match layout.indent with
  | some _ => [':', ' ']
  | none => [':']

/-- Parts between brackets, or the bare brackets if there are none. -/
def enclosed (layout : Layout) (level : Nat) (left right : Char) (parts : List (List Char)) :
    List Char :=
  match parts with
  | [] => [left, right]
  | parts =>
      left :: layout.lineBreak (level + 1) ++
        joined (',' :: layout.lineBreak (level + 1)) parts ++ layout.lineBreak level ++ [right]

mutual

def chars (layout : Layout) (level : Nat) : Datum κ → List Char
  | .null => "null".toList
  | .bool truth => if truth then "true".toList else "false".toList
  | .integer value => integerChars value
  | .float value => numbers.chars value
  | .text value => textChars value
  | .list items => layout.enclosed level '[' ']' (itemParts layout (level + 1) items)
  | .mapping entries => layout.enclosed level '{' '}' (memberParts layout (level + 1) entries)
  | .callable behind => textChars (Datum.callable behind).display

def itemParts (layout : Layout) (level : Nat) : List (Datum κ) → List (List Char)
  | [] => []
  | item :: rest => chars layout level item :: itemParts layout level rest

def memberParts (layout : Layout) (level : Nat) : List (String × Datum κ) → List (List Char)
  | [] => []
  | (key, item) :: rest =>
      (textChars key ++ layout.colon ++ chars layout level item) :: memberParts layout level rest

end

end Layout

def write (layout : Layout) (datum : Datum κ) : String := String.ofList (layout.chars 0 datum)

end DocumentRules.Json
