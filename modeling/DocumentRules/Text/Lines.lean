import DocumentRules.Text.Ranges

/-!
The lines of a text. A line ends at any character that breaks lines; a break at the
very end of the text does not begin another line.
-/

set_option autoImplicit false

namespace DocumentRules.Text

/-- Line feed, vertical tab, form feed and carriage return; the separators of files, groups
and records; next line; line and paragraph separator. -/
def lineBreaks : List Interval := [⟨10, 13⟩, ⟨28, 30⟩, ⟨133, 133⟩, ⟨8232, 8233⟩]

def isLineBreak (c : Char) : Bool := within lineBreaks c.toNat

/-- The lines of a text in which every break is one character. -/
def linesOf : List Char → List (List Char)
  | [] => []
  | c :: rest =>
      if isLineBreak c then [] :: linesOf rest
      else
        match linesOf rest with
        | [] => [[c]]
        | line :: lines => (c :: line) :: lines

end DocumentRules.Text
