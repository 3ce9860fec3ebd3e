import DocumentRules.Number.Shortest
import DocumentRules.Text.Joined
import DocumentRules.Text.Quoted
import DocumentRules.Value.Basic

/-!
Data as text. The literal form quotes texts and is used inside containers and in
messages; the display form leaves a text that stands alone as it is. The subject
form is what text predicates see: `true` for the true boolean, nothing for a datum
that does not hold, and the display form otherwise. A whole number with more than
`digitLimit` digits cannot be written, and neither can what holds one.
-/

set_option autoImplicit false

namespace DocumentRules

open Number Text

/-- Numbers from 0.0001 up to 16 digits before the point are written positionally. -/
def literalNumbers : NumberLayout where
  positionalFrom := -4
  positionalBelow := 16
  exponentDigits := 2
  notANumber := "nan"
  infinity := "inf"
  negativeInfinity := "-inf"

namespace Datum

variable {κ : Type}

def commaSpace : List Char := [',', ' ']

mutual

def literalChars : Datum κ → List Char
  | .null => "None".toList
  | .bool truth => if truth then "True".toList else "False".toList
  | .integer value => integerChars value
  | .float value => literalNumbers.chars value
  | .text value => quotedChars value.toList
  | .list items => '[' :: joined commaSpace (literalItems items) ++ [']']
  | .mapping entries => '{' :: joined commaSpace (literalEntries entries) ++ ['}']
  | .callable _ => "<function>".toList

def literalItems : List (Datum κ) → List (List Char)
  | [] => []
  | item :: rest => item.literalChars :: literalItems rest

def literalEntries : List (String × Datum κ) → List (List Char)
  | [] => []
  | (key, item) :: rest =>
      (quotedChars key.toList ++ ':' :: ' ' :: item.literalChars) :: literalEntries rest

end

def literal (datum : Datum κ) : String := String.ofList datum.literalChars

def display : Datum κ → String
  | .text value => value
  | datum => datum.literal

mutual

/-- Whether the datum can be written as text. The forms above are those of a datum that can. -/
def isWritable : Datum κ → Bool
  | .integer value => (naturalChars value.natAbs).length ≤ digitLimit
  | .list items => areWritable items
  | .mapping entries => entriesWritable entries
  | _ => true

def areWritable : List (Datum κ) → Bool
  | [] => true
  | item :: rest => item.isWritable && areWritable rest

def entriesWritable : List (String × Datum κ) → Bool
  | [] => true
  | (_, item) :: rest => item.isWritable && entriesWritable rest

end

/-- The text that text predicates are given. -/
def subject (datum : Datum κ) : String :=
  match datum with
  | .bool true => "true"
  | _ => if datum.holds then datum.display else ""

end Datum

/-- The texts in quotes, in brackets. -/
def quotedList (texts : List String) : String :=
  String.ofList
    ('[' :: joined Datum.commaSpace (texts.map fun text => quotedChars text.toList) ++ [']'])

end DocumentRules
