import DocumentRules.Text.Joined

/-!
Texts that are joined from parts. Cutting a text at a mark and joining the parts undo each
other as long as no part holds the mark, so a text is joined from parts of a kind exactly
when it is cut into such parts.
-/

set_option autoImplicit false

namespace DocumentRules.Text

theorem joined_intercalate (separator : List Char) (parts : List (List Char)) :
    joined separator parts = separator.intercalate parts := by
  induction parts with
  | nil => rfl
  | cons part rest induction =>
      cases rest with
      | nil => simp [joined]
      | cons next later =>
          rw [joined, induction, List.intercalate_cons_cons, List.append_assoc]
          simp

theorem joined_append (separator : List Char) {left right : List (List Char)} (before : left ≠ [])
    (after : right ≠ []) :
    joined separator (left ++ right) =
      joined separator left ++ separator ++ joined separator right := by
  induction left with
  | nil => exact absurd rfl before
  | cons part rest induction =>
      cases rest with
      | nil =>
          cases right with
          | nil => exact absurd rfl after
          | cons next later => rfl
      | cons next later =>
          have inner := induction (List.cons_ne_nil next later)
          simp only [List.cons_append, joined, List.append_assoc] at inner ⊢
          rw [inner]

/-- A joined text begins with the first of its parts. -/
theorem joined_begins_with (separator part : List Char) (rest : List (List Char)) :
    ∃ more, joined separator (part :: rest) = part ++ more := by
  cases rest with
  | nil => exact ⟨[], (List.append_nil part).symm⟩
  | cons next later => exact ⟨_, List.append_assoc part separator _⟩

theorem cut_at_split_on (mark : Char) (text : List Char) : cutAt mark text = text.splitOn mark := by
  induction text with
  | nil => rfl
  | cons c rest induction =>
      rw [List.splitOn_cons_eq_if_modifyHead, cutAt, induction]
      by_cases same : c = mark
      · simp [same]
      · rw [if_neg same, if_neg (by simpa using same)]
        cases parts : rest.splitOn mark with
        | nil => exact absurd parts (List.splitOn_ne_nil mark rest)
        | cons part later => rfl

theorem cut_at_whole {mark : Char} {text : List Char} (clean : mark ∉ text) :
    cutAt mark text = [text] := by
  rw [cut_at_split_on, List.splitOn_eq_singleton clean]

theorem cut_at_joined (mark : Char) (parts : List (List Char)) (nonempty : parts ≠ [])
    (clean : ∀ part ∈ parts, mark ∉ part) : cutAt mark (joined [mark] parts) = parts := by
  rw [cut_at_split_on, joined_intercalate]
  exact List.splitOn_intercalate mark clean nonempty

theorem cut_at_clean (mark : Char) (text : List Char) :
    ∀ part ∈ cutAt mark text, mark ∉ part := by
  induction text with
  | nil => simp [cutAt]
  | cons c rest induction =>
      intro part member
      rw [cutAt] at member
      by_cases same : c = mark
      · rw [if_pos same, List.mem_cons] at member
        rcases member with rfl | member
        · exact List.not_mem_nil
        · exact induction part member
      · rw [if_neg same] at member
        cases parts : cutAt mark rest with
        | nil => exact absurd parts (cut_at_nonempty mark rest)
        | cons first later =>
            rw [parts] at member induction
            rcases List.mem_cons.mp member with rfl | member
            · intro inside
              rcases List.mem_cons.mp inside with equal | inside
              · exact same equal.symm
              · exact induction first List.mem_cons_self inside
            · exact induction part (List.mem_cons_of_mem first member)

/-- A mark between two texts is one of the cuts. -/
theorem cut_at_append (mark : Char) (left right : List Char) :
    cutAt mark (left ++ mark :: right) = cutAt mark left ++ cutAt mark right := by
  induction left with
  | nil => simp [cutAt]
  | cons c rest induction =>
      rw [List.cons_append, cutAt, cutAt, induction]
      by_cases same : c = mark
      · rw [if_pos same, if_pos same, List.cons_append]
      · rw [if_neg same, if_neg same]
        cases parts : cutAt mark rest with
        | nil => exact absurd parts (cut_at_nonempty mark rest)
        | cons part later => rfl

/-- A part without the mark is the first that is cut off. -/
theorem cut_at_first {mark : Char} {part : List Char} (clean : mark ∉ part) (rest : List Char) :
    cutAt mark (part ++ mark :: rest) = part :: cutAt mark rest := by
  rw [cut_at_append, cut_at_whole clean]
  rfl

/-- Parts that may hold the mark are cut further. -/
theorem cut_at_joined_parts (mark : Char) {parts : List (List Char)} (nonempty : parts ≠ []) :
    cutAt mark (joined [mark] parts) = parts.flatMap (cutAt mark) := by
  induction parts with
  | nil => exact absurd rfl nonempty
  | cons part rest induction =>
      cases rest with
      | nil => simp [joined]
      | cons next later =>
          have split : joined [mark] (part :: next :: later) =
              part ++ mark :: joined [mark] (next :: later) := by
            simp [joined]
          rw [split, cut_at_append, induction (List.cons_ne_nil next later)]
          rfl

/-- What stands in front of a text and does not hold the mark is in front of its first part. -/
theorem cut_at_behind {mark : Char} {lead : List Char} (clean : mark ∉ lead) (text : List Char) :
    ∃ first later, cutAt mark text = first :: later ∧
      cutAt mark (lead ++ text) = (lead ++ first) :: later := by
  induction lead with
  | nil =>
      obtain ⟨first, later, cut⟩ := List.exists_cons_of_ne_nil (cut_at_nonempty mark text)
      exact ⟨first, later, cut, cut⟩
  | cons c rest induction =>
      rw [List.mem_cons, not_or] at clean
      obtain ⟨first, later, cut, inner⟩ := induction clean.2
      refine ⟨first, later, cut, ?_⟩
      rw [List.cons_append, cutAt, if_neg (Ne.symm clean.1), inner]
      rfl

/-- Parts without the mark are the parts of the text that is joined from them and of no other. -/
theorem cut_at_eq_iff {mark : Char} {text : List Char} {parts : List (List Char)}
    (nonempty : parts ≠ []) (clean : ∀ part ∈ parts, mark ∉ part) :
    cutAt mark text = parts ↔ text = joined [mark] parts := by
  constructor
  · intro cut
    rw [← cut, joined_cut_at]
  · intro whole
    rw [whole, cut_at_joined mark parts nonempty clean]

/-- A character of a joined text comes from the separator or from one of the parts. -/
theorem mem_joined {separator : List Char} {parts : List (List Char)} {c : Char}
    (member : c ∈ joined separator parts) : c ∈ separator ∨ ∃ part ∈ parts, c ∈ part := by
  induction parts with
  | nil => cases member
  | cons part rest induction =>
      cases rest with
      | nil => exact Or.inr ⟨part, List.mem_cons_self, member⟩
      | cons next later =>
          rw [joined, List.append_assoc, List.mem_append, List.mem_append] at member
          · rcases member with own | between | inner
            · exact Or.inr ⟨part, List.mem_cons_self, own⟩
            · exact Or.inl between
            · rcases induction inner with between | ⟨other, listed, inside⟩
              · exact Or.inl between
              · exact Or.inr ⟨other, List.mem_cons_of_mem part listed, inside⟩
          · intro impossible
            cases impossible

theorem eq_of_cut_at_singleton {mark : Char} {text part : List Char}
    (single : cutAt mark text = [part]) : text = part := by
  have whole := joined_cut_at mark text
  rw [single] at whole
  exact whole.symm

end DocumentRules.Text
