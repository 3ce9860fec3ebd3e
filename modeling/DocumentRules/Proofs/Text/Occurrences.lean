import DocumentRules.Proofs.Text.Parts

/-!
Where a word occurs in a text. A word that cannot reach across a separator occurs in joined parts
exactly when it occurs in one of them. A word that begins with the mark at which a text is cut
occurs in the text exactly when one of the parts behind the first begins with the rest of the word.
-/

set_option autoImplicit false

namespace DocumentRules.Text

/-! ## Around a character that the word does not hold -/

theorem begins_before_iff {word : List Char} {c : Char} (clean : c ∉ word)
    (before behind : List Char) : word <+: before ++ c :: behind ↔ word <+: before := by
  constructor
  · intro begins
    induction before generalizing word with
    | nil =>
        rcases List.prefix_cons_iff.mp begins with none | ⟨later, same, _⟩
        · subst none
          exact List.nil_prefix
        · rw [same] at clean
          exact absurd List.mem_cons_self clean
    | cons d rest induction =>
        rcases List.prefix_cons_iff.mp begins with none | ⟨later, same, inner⟩
        · subst none
          exact List.nil_prefix
        · rw [same, List.cons_prefix_cons]
          rw [same, List.mem_cons, not_or] at clean
          exact ⟨rfl, induction clean.2 inner⟩
  · intro begins
    exact begins.trans (List.prefix_append before (c :: behind))

theorem occurs_around_iff {word : List Char} {c : Char} (clean : c ∉ word)
    (before behind : List Char) :
    word <:+: before ++ c :: behind ↔ word <:+: before ∨ word <:+: behind := by
  induction before with
  | nil =>
      rw [List.nil_append, List.infix_cons_iff, List.infix_nil]
      have begins := begins_before_iff clean [] behind
      rw [List.nil_append, List.prefix_nil] at begins
      rw [begins]
  | cons d rest induction =>
      rw [List.cons_append, List.infix_cons_iff, List.infix_cons_iff, induction, or_assoc,
        ← List.cons_append, begins_before_iff clean]

/-- A word does not begin in a text that does not hold its first character. -/
theorem occurs_behind_iff {first : Char} {word lead : List Char} (apart : first ∉ lead)
    (text : List Char) : first :: word <:+: lead ++ text ↔ first :: word <:+: text := by
  induction lead with
  | nil => rfl
  | cons d rest induction =>
      rw [List.mem_cons, not_or] at apart
      rw [List.cons_append, List.infix_cons_iff, induction apart.2, List.cons_prefix_cons]
      exact or_iff_right fun begins => apart.1 begins.1

theorem not_occurs_of_not_mem {first : Char} {word text : List Char} (absent : first ∉ text) :
    ¬first :: word <:+: text := by
  intro occurs
  exact absent (occurs.subset List.mem_cons_self)

/-- A separator that a word can neither begin in nor hold keeps it inside the parts. -/
theorem occurs_joined_iff {first c : Char} {word separator : List Char}
    (clean : c ∉ first :: word) (apart : first ∉ separator) (parts : List (List Char)) :
    first :: word <:+: joined (c :: separator) parts ↔
      ∃ part ∈ parts, first :: word <:+: part := by
  induction parts with
  | nil =>
      rw [joined, List.infix_nil]
      simp
  | cons part rest induction =>
      cases rest with
      | nil => simp [joined]
      | cons next later =>
          have split : joined (c :: separator) (part :: next :: later) =
              part ++ c :: (separator ++ joined (c :: separator) (next :: later)) := by
            simp [joined]
          rw [split, occurs_around_iff clean, occurs_behind_iff apart, induction]
          simp only [List.mem_cons, exists_eq_or_imp]

/-! ## In the lines of a text -/

/-- A text begins with a word of one line when its first line does. -/
theorem begins_first_line_iff {mark : Char} {word text first : List Char}
    {later : List (List Char)} (clean : mark ∉ word) (cut : cutAt mark text = first :: later) :
    word <+: text ↔ word <+: first := by
  have whole := joined_cut_at mark text
  rw [cut] at whole
  cases later with
  | nil =>
      rw [← whole]
      rfl
  | cons next more =>
      have split : joined [mark] (first :: next :: more) =
          first ++ mark :: joined [mark] (next :: more) := by
        simp [joined]
      rw [← whole, split, begins_before_iff clean]

theorem occurs_later_line_iff {mark : Char} {word : List Char} (clean : mark ∉ word)
    (text : List Char) :
    mark :: word <:+: text ↔ ∃ line ∈ (cutAt mark text).tail, word <+: line := by
  induction text with
  | nil => simp [cutAt]
  | cons c rest induction =>
      cases cut : cutAt mark rest with
      | nil => exact absurd cut (cut_at_nonempty mark rest)
      | cons first later =>
          rw [cut, List.tail_cons] at induction
          rw [List.infix_cons_iff, List.cons_prefix_cons, induction, cutAt, cut]
          by_cases same : c = mark
          · rw [if_pos same, List.tail_cons, begins_first_line_iff clean cut]
            simp only [same, true_and, List.mem_cons, exists_eq_or_imp]
          · rw [if_neg same, List.tail_cons]
            exact or_iff_right fun begins => same begins.1.symm

end DocumentRules.Text
