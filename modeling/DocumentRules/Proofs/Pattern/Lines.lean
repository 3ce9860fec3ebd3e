import DocumentRules.Pattern.Matcher

/-!
A pattern that asks for a line of characters from one set, from the start of the text to the
end of its last line. It finds exactly the texts that are made of one or more characters of
the set, with or without a line feed behind them: the place before a last line feed counts as
an end, so the line feed need not belong to the set.
-/

set_option autoImplicit false

namespace DocumentRules.Pattern

namespace Place

/-- The place behind a run of characters. -/
def behind (place : Place) (run rest : List Char) : Place :=
  { place with before := run.reverse ++ place.before, after := rest,
               offset := place.offset + run.length }

theorem behind_nothing (place : Place) : place.behind [] place.after = place := by
  simp [behind]

theorem behind_advance (place : Place) (c : Char) (rest run last : List Char) :
    (place.advance c rest).behind run last = place.behind (c :: run) last := by
  simp [behind, advance, Nat.add_comm, Nat.add_left_comm]

end Place

section Repetition

variable {set : CharSet} {follow : Follow}

theorem run_char_end {place : Place} (ahead : place.after = []) :
    (Node.char set).run place follow = none := by
  simp [Node.run, ahead]

theorem run_char {place : Place} {c : Char} {rest : List Char} (ahead : place.after = c :: rest) :
    (Node.char set).run place follow =
      if set.holds c then follow (place.advance c rest) else none := by
  simp [Node.run, ahead]

/-- Some run of characters of the set leads from a place to one where the rest succeeds. -/
def RunsTo (set : CharSet) (follow : Follow) (place : Place) : Prop :=
  ∃ run rest, place.after = run ++ rest ∧ (∀ c ∈ run, set.holds c = true) ∧
    (follow (place.behind run rest)).isSome = true

theorem runs_to_of_follow {place : Place} (here : (follow place).isSome = true) :
    RunsTo set follow place :=
  ⟨[], place.after, rfl, fun _ member => absurd member List.not_mem_nil,
    by rwa [Place.behind_nothing]⟩

/-- Either the run is over or its first character is taken. -/
theorem runs_to_cons {place : Place} {c : Char} {rest : List Char}
    (ahead : place.after = c :: rest) :
    RunsTo set follow place ↔
      (follow place).isSome = true ∨
        set.holds c = true ∧ RunsTo set follow (place.advance c rest) := by
  constructor
  · rintro ⟨run, last, split, all, done⟩
    cases run with
    | nil =>
        left
        rw [List.nil_append] at split
        rwa [← split, Place.behind_nothing] at done
    | cons first run =>
        right
        rw [ahead, List.cons_append, List.cons.injEq] at split
        obtain ⟨rfl, split⟩ := split
        obtain ⟨own, others⟩ := List.forall_mem_cons.mp all
        refine ⟨own, run, last, split, others, ?_⟩
        rwa [Place.behind_advance]
  · rintro (here | ⟨own, run, last, split, all, done⟩)
    · exact runs_to_of_follow here
    · change rest = run ++ last at split
      refine ⟨c :: run, last, ?_, List.forall_mem_cons.mpr ⟨own, all⟩, ?_⟩
      · rw [ahead, split, List.cons_append]
      · rwa [← Place.behind_advance]

theorem runs_to_end {place : Place} (ahead : place.after = []) :
    RunsTo set follow place ↔ (follow place).isSome = true := by
  constructor
  · rintro ⟨run, last, split, _, done⟩
    rw [ahead] at split
    obtain ⟨rfl, rfl⟩ := List.append_eq_nil_iff.mp split.symm
    have here := Place.behind_nothing place
    rw [ahead] at here
    rwa [here] at done
  · exact runs_to_of_follow

/-- Greedy rounds give back what they took too much, so the rest is tried behind every run. The
rounds last to the end of the text, and every one moves on from where the last one began. -/
theorem greedily_some_iff (rounds count : Nat) (last : Option Nat) (place : Place)
    (enough : place.after.length < rounds) (moved : last ≠ some place.offset) :
    (greedily (Node.char set).run none rounds count last place follow).isSome = true ↔
      RunsTo set follow place := by
  induction rounds generalizing count last place with
  | zero => omega
  | succ rounds induction =>
      have goesOn : (below count none && last != some place.offset) = true := by
        simp [below, moved]
      rw [greedily, if_pos goesOn]
      cases ahead : place.after with
      | nil => rw [runs_to_end ahead, run_char_end ahead]
      | cons c rest =>
          rw [runs_to_cons ahead, run_char ahead]
          have length : rest.length < rounds := by
            rw [ahead, List.length_cons] at enough
            omega
          have inner := induction (count + 1) (some place.offset) (place.advance c rest) length
            (by simp [Place.advance])
          by_cases own : set.holds c = true
          · rw [if_pos own, ← inner, and_iff_right own]
            cases greedily (Node.char set).run none rounds (count + 1) (some place.offset)
              (place.advance c rest) follow <;> simp
          · rw [if_neg own]
            simp [own]

end Repetition

namespace Node

/-- A line of characters of one set, at least one, from the start of the text on. -/
def lineOf (set : CharSet) : Node :=
  .chain (.anchor .textStart) (.chain (.repeated .greedy 1 none (.char set)) (.anchor .lastLineEnd))

/-- Characters of the set up to the end of the text, or to a last line feed. -/
def IsLineOf (set : CharSet) (text : List Char) : Prop :=
  ∃ line rest, text = line ++ rest ∧ line ≠ [] ∧ (∀ c ∈ line, set.holds c = true) ∧
    (rest = [] ∨ rest = ['\n'])

theorem line_not_behind_start (set : CharSet) (before after : List Char) (offset : Nat)
    (started : before ≠ []) : (lineOf set).searchFrom before after offset = false := by
  induction after generalizing before offset with
  | nil => simp [searchFrom, lineOf, run, Anchor.holds, started]
  | cons c rest induction =>
      rw [searchFrom, induction (c :: before) (offset + 1) (List.cons_ne_nil c before)]
      simp [lineOf, run, Anchor.holds, started]

theorem line_at_start (set : CharSet) (text : List Char) :
    (lineOf set).search text = ((lineOf set).run (Place.start text) some).isSome := by
  cases text with
  | nil => rfl
  | cons c rest =>
      rw [search, searchFrom, line_not_behind_start set [c] rest 1 (List.cons_ne_nil c [])]
      exact Bool.or_false _

theorem line_end_some_iff (place : Place) :
    ((Node.anchor .lastLineEnd).run place some).isSome = true ↔
      place.after = [] ∨ place.after = ['\n'] := by
  simp [run, Anchor.holds]

theorem search_line_iff (set : CharSet) (text : List Char) :
    (lineOf set).search text = true ↔ IsLineOf set text := by
  rw [line_at_start]
  change ((Node.char set).run (Place.start text) fun next =>
    greedily (Node.char set).run none (next.after.length + 2) 1 none next fun last =>
      (Node.anchor .lastLineEnd).run last some).isSome = true ↔ _
  cases text with
  | nil =>
      rw [run_char_end rfl]
      constructor
      · intro found
        cases found
      · rintro ⟨line, rest, split, nonempty, _⟩
        exact absurd (List.append_eq_nil_iff.mp split.symm).1 nonempty
  | cons c rest =>
      rw [run_char rfl]
      by_cases own : set.holds c = true
      · rw [if_pos own, greedily_some_iff _ _ _ _ (by omega) (by simp)]
        constructor
        · rintro ⟨run, last, split, all, ends⟩
          refine ⟨c :: run, last, congrArg (List.cons c) split, List.cons_ne_nil c run,
            List.forall_mem_cons.mpr ⟨own, all⟩, (line_end_some_iff _).mp ends⟩
        · rintro ⟨line, last, split, nonempty, all, ends⟩
          cases line with
          | nil => exact absurd rfl nonempty
          | cons first run =>
              rw [List.cons_append, List.cons.injEq] at split
              obtain ⟨rfl, split⟩ := split
              exact ⟨run, last, split, (List.forall_mem_cons.mp all).2,
                (line_end_some_iff _).mpr ends⟩
      · rw [if_neg own]
        constructor
        · intro found
          cases found
        · rintro ⟨line, last, split, nonempty, all, _⟩
          cases line with
          | nil => exact absurd rfl nonempty
          | cons first run =>
              rw [List.cons_append, List.cons.injEq] at split
              obtain ⟨rfl, _⟩ := split
              exact absurd (List.forall_mem_cons.mp all).1 own

end Node

end DocumentRules.Pattern
