import DocumentRules.Number.Integer

/-!
Universally unique identifiers in their lenient form: marks such as `urn:`, braces
around the text and hyphens anywhere are ignored, and what is left has to be a number
in base sixteen written with 32 characters. The text as a whole has 36 characters.
-/

set_option autoImplicit false

namespace DocumentRules.Format

/-- The text without a mark, looked for from left to right. The number counts characters of
the mark that are still to be passed over. -/
def withoutMark (mark : List Char) : Nat → List Char → List Char
  | _, [] => []
  | pending + 1, _ :: rest => withoutMark mark pending rest
  | 0, c :: rest =>
      if mark.isPrefixOf (c :: rest) then withoutMark mark (mark.length - 1) rest
      else c :: withoutMark mark 0 rest

def isBrace (c : Char) : Bool := c == '{' || c == '}'

def withoutOuterBraces (text : List Char) : List Char :=
  ((text.dropWhile isBrace).reverse.dropWhile isBrace).reverse

/-- The part of an identifier that is read as a number. -/
def uuidDigits (text : List Char) : List Char :=
  let unmarked := withoutMark "uuid:".toList 0 (withoutMark "urn:".toList 0 text)
  (withoutOuterBraces unmarked).filter fun c => c != '-'

def isUuid (text : List Char) : Bool :=
  let digits := uuidDigits text
  text.length == 36 && digits.length == 32 &&
    match Number.readInteger 16 digits with
    | some value => 0 ≤ value && value < Int.pow 2 128
    | none => false

end DocumentRules.Format
