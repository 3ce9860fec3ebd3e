import DocumentRules.Text.Ranges

/-!
White space of the Unicode standard, version 14: the space separators together
with the characters whose bidirectional class is white space, a paragraph
separator or a segment separator.
-/

set_option autoImplicit false

namespace DocumentRules.Text

def blankIntervals : List Interval :=
  [(9, 13), (28, 32), (133, 133), (160, 160), (5760, 5760), (8192, 8202), (8232, 8233),
   (8239, 8239), (8287, 8287), (12288, 12288)]

def isBlank (code : Nat) : Bool := within blankIntervals code

/-- The six characters that a seven-bit terminal treats as white space. -/
def isPlainBlank (code : Nat) : Bool := code == 32 || (9 ≤ code && code ≤ 13)

/-- Blanks at the end of a text are dropped; blanks elsewhere stay. -/
def dropTrailingBlanks (text : List Char) : List Char :=
  (text.reverse.dropWhile fun c => isBlank c.toNat).reverse

end DocumentRules.Text
