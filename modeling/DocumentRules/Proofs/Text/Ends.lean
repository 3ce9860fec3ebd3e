import DocumentRules.Proofs.Text.Parts
import DocumentRules.Proofs.Text.Spans
import DocumentRules.Text.Blank

/-!
Texts whose last character is no blank. Dropping blanks at the end leaves such a text as it is and
takes away exactly the blanks that stand behind it. A text is of this kind when its last part is.
-/

set_option autoImplicit false

namespace DocumentRules.Text

/-- No character is a blank. -/
def IsSolid (text : List Char) : Prop := ∀ c ∈ text, isBlank c.toNat = false

theorem solid_iff_all (text : List Char) :
    IsSolid text ↔ (text.all fun c => !isBlank c.toNat) = true := by
  simp [IsSolid]

theorem solid_cons_iff (c : Char) (text : List Char) :
    IsSolid (c :: text) ↔ isBlank c.toNat = false ∧ IsSolid text :=
  List.forall_mem_cons

theorem solid_append_iff (left right : List Char) :
    IsSolid (left ++ right) ↔ IsSolid left ∧ IsSolid right :=
  List.forall_mem_append

/-- There is a last character, and it is no blank. -/
def EndsFirmly (text : List Char) : Prop :=
  ∃ c, text.getLast? = some c ∧ isBlank c.toNat = false

namespace EndsFirmly

theorem behind {text : List Char} (firm : EndsFirmly text) (lead : List Char) :
    EndsFirmly (lead ++ text) := by
  obtain ⟨c, last, solid⟩ := firm
  refine ⟨c, ?_, solid⟩
  rw [List.getLast?_append, last, Option.some_or]

theorem of_last {c : Char} (solid : isBlank c.toNat = false) (lead : List Char) :
    EndsFirmly (lead ++ [c]) :=
  behind ⟨c, rfl, solid⟩ lead

theorem of_solid {text : List Char} (nonempty : text ≠ []) (solid : IsSolid text) :
    EndsFirmly text := by
  refine ⟨text.getLast nonempty, List.getLast?_eq_some_getLast nonempty, ?_⟩
  exact solid _ (List.getLast_mem nonempty)

theorem joined_last {last : List Char} (firm : EndsFirmly last) (separator : List Char)
    (parts : List (List Char)) : EndsFirmly (joined separator (parts ++ [last])) := by
  cases parts with
  | nil => exact firm
  | cons part rest =>
      rw [joined_append separator (List.cons_ne_nil part rest) (List.cons_ne_nil last [])]
      exact firm.behind _

theorem joined_parts (separator : List Char) {parts : List (List Char)} (nonempty : parts ≠ [])
    (firm : ∀ part ∈ parts, EndsFirmly part) : EndsFirmly (joined separator parts) := by
  rw [← List.dropLast_concat_getLast nonempty]
  exact joined_last (firm _ (List.getLast_mem nonempty)) separator _

/-- Blanks behind the text are dropped, and nothing of the text. -/
theorem drop_blanks {text blanks : List Char} (firm : EndsFirmly text)
    (blank : ∀ c ∈ blanks, isBlank c.toNat = true) :
    dropTrailingBlanks (text ++ blanks) = text := by
  obtain ⟨c, last, solid⟩ := firm
  rw [dropTrailingBlanks, List.reverse_append, drop_span, List.reverse_reverse]
  · intro d member
    exact blank d (List.mem_reverse.mp member)
  · intro d front
    rw [List.head?_reverse, last] at front
    cases front
    exact solid

end EndsFirmly

end DocumentRules.Text
