/-!
Texts joined by a separator, and the cutting of a text at every occurrence of a
character. Cutting always gives at least one part; joining the parts with the
character gives the text back.
-/

set_option autoImplicit false

namespace DocumentRules.Text

/-- The parts one after the other with the separator between neighbours. -/
def joined (separator : List Char) : List (List Char) → List Char
  | [] => []
  | [part] => part
  | part :: rest => part ++ separator ++ joined separator rest

/-- Cuts a text at every occurrence of a character, which is dropped. -/
def cutAt (mark : Char) : List Char → List (List Char)
  | [] => [[]]
  | c :: rest =>
      if c = mark then [] :: cutAt mark rest
      else
        match cutAt mark rest with
        | [] => [[c]]
        | part :: parts => (c :: part) :: parts

theorem cut_at_nonempty (mark : Char) (text : List Char) : cutAt mark text ≠ [] := by
  cases text with
  | nil => simp [cutAt]
  | cons c rest =>
      unfold cutAt
      split
      · simp
      · split <;> simp

theorem joined_cut_at (mark : Char) (text : List Char) :
    joined [mark] (cutAt mark text) = text := by
  induction text with
  | nil => rfl
  | cons c rest induction =>
      unfold cutAt
      split
      · rename_i same
        cases parts : cutAt mark rest with
        | nil => exact absurd parts (cut_at_nonempty mark rest)
        | cons part later => rw [parts] at induction; simp [joined, induction, same]
      · split
        · rename_i parts
          exact absurd parts (cut_at_nonempty mark rest)
        · rename_i part later parts
          rw [parts] at induction
          cases later with
          | nil => simpa [joined] using induction
          | cons next more => simpa [joined] using induction

def occursIn (part : List Char) : List Char → Bool
  | [] => part.isEmpty
  | c :: rest => part.isPrefixOf (c :: rest) || occursIn part rest

end DocumentRules.Text
