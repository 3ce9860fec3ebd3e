import Mathlib.Data.List.TakeWhile

/-!
Spans: the characters of one class with which a text begins. Taking and dropping by a test find
exactly the span that is there, when no character of the class follows it. Readers of digits,
blanks and braces rest on this.
-/

set_option autoImplicit false

namespace DocumentRules.Text

variable {inside : Char → Bool}

theorem span_cut (inside : Char → Bool) (text : List Char) :
    ∃ span, (∀ c ∈ span, inside c = true) ∧ text = span ++ text.dropWhile inside := by
  refine ⟨text.takeWhile inside, ?_, List.takeWhile_append_dropWhile.symm⟩
  intro c member
  exact List.all_eq_true.mp List.all_takeWhile c member

theorem take_span {span rest : List Char} (all : ∀ c ∈ span, inside c = true)
    (ends : ∀ c, rest.head? = some c → inside c = false) :
    (span ++ rest).takeWhile inside = span := by
  have nothing : rest.takeWhile inside = [] := by
    cases rest with
    | nil => rfl
    | cons c later => rw [List.takeWhile_cons_of_neg (by simp [ends c rfl])]
  rw [List.takeWhile_append_of_pos all, nothing, List.append_nil]

theorem drop_span {span rest : List Char} (all : ∀ c ∈ span, inside c = true)
    (ends : ∀ c, rest.head? = some c → inside c = false) :
    (span ++ rest).dropWhile inside = rest := by
  rw [List.dropWhile_append_of_pos all]
  cases rest with
  | nil => rfl
  | cons c later => rw [List.dropWhile_cons_of_neg (by simp [ends c rfl])]

end DocumentRules.Text
