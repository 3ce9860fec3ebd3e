import DocumentRules.Format.Address
import DocumentRules.Proofs.Format.Lines
import DocumentRules.Proofs.Text.Parts

/-!
Which texts are mail addresses. A mail address is a name and a host with an at sign between
them: the name is a row of runs of letters, digits and signs, the host a row of labels that
ends in a label of letters, and points stand between the runs and between the labels. The reader
decides at every character where a run or a label ends, and finds the same parts.
-/

set_option autoImplicit false

namespace DocumentRules.Format

open Text

/-! ## Hosts -/

/-- Up to sixty-three letters, digits and hyphens with no hyphen at either end. -/
structure IsLabel (label : List Char) : Prop where
  filled : 1 ≤ label.length
  short : label.length ≤ 63
  chars : ∀ c ∈ label, c.isAlphanum = true ∨ c = '-'
  first : ∀ c, label.head? = some c → c.isAlphanum = true
  last : ∀ c, label.getLast? = some c → c.isAlphanum = true

/-- Two or more letters. -/
structure IsTopLabel (label : List Char) : Prop where
  several : 2 ≤ label.length
  letters : ∀ c ∈ label, c.isAlpha = true

/-- One or more labels and a last one that consists of letters, with points between them. -/
inductive IsHostName : List Char → Prop
  | spelled (labels : List (List Char)) (top : List Char) (some : labels ≠ [])
      (labelled : ∀ label ∈ labels, IsLabel label) (ended : IsTopLabel top) :
      IsHostName (joined ['.'] (labels ++ [top]))

theorem label_char_iff (c : Char) : isLabelChar c = true ↔ c.isAlphanum = true ∨ c = '-' := by
  rw [isLabelChar, Bool.or_eq_true, latin_alphanumeric_iff, beq_iff_eq]

theorem is_label_iff (label : List Char) : isLabel label = true ↔ IsLabel label := by
  simp only [isLabel, Bool.and_eq_true, decide_eq_true_eq, List.all_eq_true, label_char_iff,
    Option.any_eq_true, latin_alphanumeric_iff]
  constructor
  · intro parts
    obtain ⟨⟨⟨short, chars⟩, first, atFirst, begun⟩, last, atLast, ended⟩ := parts
    refine ⟨?_, short, chars, ?_, ?_⟩
    · exact List.length_pos_iff.mpr (List.ne_nil_of_mem (List.mem_of_head? atFirst))
    · intro c found
      rw [Option.some.inj (found.symm.trans atFirst)]
      exact begun
    · intro c found
      rw [Option.some.inj (found.symm.trans atLast)]
      exact ended
  · intro formed
    have filled := List.length_pos_iff.mp formed.filled
    have atFirst := List.head?_eq_some_head filled
    have atLast := List.getLast?_eq_some_getLast filled
    exact ⟨⟨⟨formed.short, formed.chars⟩, _, atFirst, formed.first _ atFirst⟩,
      _, atLast, formed.last _ atLast⟩

theorem is_top_label_iff (label : List Char) : isTopLabel label = true ↔ IsTopLabel label := by
  simp only [isTopLabel, Bool.and_eq_true, decide_eq_true_eq, List.all_eq_true, latin_letter_iff]
  constructor
  · intro parts
    exact ⟨parts.1, parts.2⟩
  · intro top
    exact ⟨top.several, top.letters⟩

theorem IsLabel.not_mem {label : List Char} (labelled : IsLabel label) {c : Char}
    (other : c.isAlphanum = false) (noHyphen : c ≠ '-') : c ∉ label := by
  intro member
  rcases labelled.chars c member with alphanumeric | hyphen
  · rw [other] at alphanumeric
    cases alphanumeric
  · exact noHyphen hyphen

theorem IsTopLabel.not_mem {label : List Char} (top : IsTopLabel label) {c : Char}
    (other : c.isAlpha = false) : c ∉ label :=
  not_mem_of_refused top.letters other

/-- The reader cuts the host at its points, the characters of the current label included. -/
theorem host_name_cut_iff (several : Bool) (label text : List Char) (clean : '.' ∉ label) :
    isHostName several label text = true ↔
      ∃ labels top, cutAt '.' (label.reverse ++ text) = labels ++ [top] ∧
        (several = true ∨ labels ≠ []) ∧ (∀ part ∈ labels, IsLabel part) ∧ IsTopLabel top := by
  induction text generalizing several label with
  | nil =>
      have cleanPart : '.' ∉ label.reverse := fun member => clean (List.mem_reverse.mp member)
      rw [isHostName, List.append_nil, cut_at_whole cleanPart, Bool.and_eq_true, is_top_label_iff]
      constructor
      · intro parts
        exact ⟨[], label.reverse, rfl, Or.inl parts.1, by simp, parts.2⟩
      · intro parts
        obtain ⟨labels, top, cut, before, _, ended⟩ := parts
        cases labels with
        | nil =>
            have same : label.reverse = top := by simpa using cut
            exact ⟨before.resolve_right (absurd rfl), same ▸ ended⟩
        | cons first later => simp at cut
  | cons c rest induction =>
      by_cases point : c = '.'
      · have cleanPart : '.' ∉ label.reverse := fun member => clean (List.mem_reverse.mp member)
        rw [point, isHostName, if_pos (beq_self_eq_true '.'), cut_at_first cleanPart,
          Bool.and_eq_true, is_label_iff, induction true [] (by simp)]
        constructor
        · intro parts
          obtain ⟨own, labels, top, cut, _, labelled, ended⟩ := parts
          rw [List.reverse_nil, List.nil_append] at cut
          refine ⟨label.reverse :: labels, top, ?_, Or.inr (List.cons_ne_nil _ _),
            List.forall_mem_cons.mpr ⟨own, labelled⟩, ended⟩
          rw [cut, List.cons_append]
        · intro parts
          obtain ⟨labels, top, cut, _, labelled, ended⟩ := parts
          cases labels with
          | nil =>
              rw [List.nil_append, List.cons.injEq] at cut
              exact absurd cut.2 (cut_at_nonempty '.' rest)
          | cons first later =>
              rw [List.cons_append, List.cons.injEq] at cut
              have each := List.forall_mem_cons.mp labelled
              exact ⟨cut.1 ▸ each.1, later, top, cut.2, Or.inl rfl, each.2, ended⟩
      · have cleanNext : '.' ∉ c :: label := by
          simp [clean, Ne.symm point]
        rw [isHostName, if_neg (by simpa using point),
          induction several (c :: label) cleanNext, List.reverse_cons, List.append_assoc,
          List.singleton_append]

theorem is_host_name_iff (text : List Char) :
    isHostName false [] text = true ↔ IsHostName text := by
  rw [host_name_cut_iff false [] text (by simp), List.reverse_nil, List.nil_append]
  have parted {labels : List (List Char)} {top : List Char}
      (labelled : ∀ label ∈ labels, IsLabel label) (ended : IsTopLabel top) :
      cutAt '.' text = labels ++ [top] ↔ text = joined ['.'] (labels ++ [top]) := by
    apply cut_at_eq_iff (by simp)
    intro part member
    rcases List.mem_append.mp member with inside | last
    · exact (labelled part inside).not_mem (by decide) (by decide)
    · rw [List.mem_singleton.mp last]
      exact ended.not_mem (by decide)
  constructor
  · intro parts
    obtain ⟨labels, top, cut, before, labelled, ended⟩ := parts
    rw [(parted labelled ended).mp cut]
    exact .spelled labels top (before.resolve_left (by decide)) labelled ended
  · intro host
    cases host with
    | spelled labels top some labelled ended =>
        exact ⟨labels, top, (parted labelled ended).mpr rfl, Or.inr some, labelled, ended⟩

theorem IsHostName.not_mem {text : List Char} (host : IsHostName text) {c : Char}
    (other : c.isAlphanum = false) (noHyphen : c ≠ '-') (noPoint : c ≠ '.') : c ∉ text := by
  have noLetter : c.isAlpha = false := by
    delta Char.isAlphanum at other
    exact (Bool.or_eq_false_iff.mp other).1
  cases host with
  | spelled labels top some labelled ended =>
      intro member
      rcases mem_joined member with between | ⟨part, listed, inside⟩
      · exact noPoint (List.mem_singleton.mp between)
      · rcases List.mem_append.mp listed with label | last
        · exact (labelled part label).not_mem other noHyphen inside
        · rw [List.mem_singleton.mp last] at inside
          exact ended.not_mem noLetter inside

/-! ## Names -/

/-- The signs that a name may hold beside letters and digits. -/
def nameSigns : String := "!#$%&\x27*+/=?^_\x60\x7b|\x7d~-"

/-- One or more letters, digits and signs. -/
structure IsMailRun (run : List Char) : Prop where
  filled : run ≠ []
  chars : ∀ c ∈ run, c.isAlphanum = true ∨ c ∈ nameSigns.toList

/-- Runs with points between them. -/
inductive IsMailName : List Char → Prop
  | spelled (runs : List (List Char)) (some : runs ≠ []) (each : ∀ run ∈ runs, IsMailRun run) :
      IsMailName (joined ['.'] runs)

theorem mail_char_iff (c : Char) :
    isMailChar c = true ↔ c.isAlphanum = true ∨ c ∈ nameSigns.toList := by
  have signs : mailSigns = nameSigns.toList := by decide
  rw [isMailChar, Bool.or_eq_true, latin_alphanumeric_iff, List.contains_iff_mem, signs]

theorem is_mail_run_iff (run : List Char) :
    IsMailRun run ↔ run ≠ [] ∧ ∀ c ∈ run, isMailChar c = true := by
  simp only [mail_char_iff]
  constructor
  · intro formed
    exact ⟨formed.filled, formed.chars⟩
  · intro parts
    exact ⟨parts.1, parts.2⟩

theorem joined_run_cons (c : Char) (run : List Char) (runs : List (List Char)) :
    joined ['.'] ((c :: run) :: runs) = c :: joined ['.'] (run :: runs) := by
  cases runs <;> rfl

/-- The runs in front of the at sign. The first of them may go on with a run that has begun. -/
def LeadsWithRuns (inRun : Bool) (text rest : List Char) : Prop :=
  ∃ run runs, (∀ c ∈ run, isMailChar c = true) ∧ (inRun = true ∨ run ≠ []) ∧
    (∀ other ∈ runs, IsMailRun other) ∧ text = joined ['.'] (run :: runs) ++ '@' :: rest

section Runs

variable {c : Char} {later rest : List Char} {inRun : Bool}

theorem leads_with_char_iff (inside : isMailChar c = true) :
    LeadsWithRuns inRun (c :: later) rest ↔ LeadsWithRuns true later rest := by
  constructor
  · intro leads
    obtain ⟨run, runs, all, _, each, split⟩ := leads
    cases run with
    | nil =>
        -- The text would begin with the at sign or with a point.
        cases runs with
        | nil =>
            have sign := (List.cons.inj split).1
            exact absurd sign (ne_of_refused inside (by decide))
        | cons next others =>
            have point := (List.cons.inj split).1
            exact absurd point (ne_of_refused inside (by decide))
    | cons first run =>
        rw [joined_run_cons, List.cons_append, List.cons.injEq] at split
        exact ⟨run, runs, (List.forall_mem_cons.mp all).2, Or.inl rfl, each, split.2⟩
  · intro leads
    obtain ⟨run, runs, all, _, each, split⟩ := leads
    refine ⟨c :: run, runs, List.forall_mem_cons.mpr ⟨inside, all⟩,
      Or.inr (List.cons_ne_nil c run), each, ?_⟩
    rw [joined_run_cons, List.cons_append, ← split]

/-- A character outside the class ends the run, which must have begun. -/
theorem leads_with_other (outside : isMailChar c = false)
    (leads : LeadsWithRuns inRun (c :: later) rest) :
    inRun = true ∧ ((c = '@' ∧ later = rest) ∨ (c = '.' ∧ LeadsWithRuns false later rest)) := by
  obtain ⟨run, runs, all, begun, each, split⟩ := leads
  cases run with
  | nil =>
      refine ⟨begun.resolve_right (absurd rfl), ?_⟩
      cases runs with
      | nil => exact Or.inl (List.cons.inj split)
      | cons next others =>
          have parts := List.cons.inj split
          have own := List.forall_mem_cons.mp each
          have run := (is_mail_run_iff next).mp own.1
          exact Or.inr ⟨parts.1, next, others, run.2, Or.inr run.1, own.2, parts.2⟩
  | cons first run =>
      rw [joined_run_cons, List.cons_append, List.cons.injEq] at split
      exact absurd split.1.symm (ne_of_refused (all first List.mem_cons_self) outside)

theorem leads_with_point (leads : LeadsWithRuns false later rest) :
    LeadsWithRuns true ('.' :: later) rest := by
  obtain ⟨run, runs, all, begun, each, split⟩ := leads
  have own := (is_mail_run_iff run).mpr ⟨begun.resolve_left (by decide), all⟩
  refine ⟨[], run :: runs, by simp, Or.inl rfl, List.forall_mem_cons.mpr ⟨own, each⟩, ?_⟩
  rw [split]
  rfl

end Runs

theorem after_mail_name_runs_iff (inRun : Bool) (text rest : List Char) :
    afterMailName? inRun text = some rest ↔ LeadsWithRuns inRun text rest := by
  induction text generalizing inRun with
  | nil =>
      rw [afterMailName?]
      refine iff_of_false (by simp) ?_
      intro leads
      obtain ⟨run, runs, _, _, _, split⟩ := leads
      simp at split
  | cons c later induction =>
      rw [afterMailName?]
      by_cases inside : isMailChar c = true
      · rw [if_pos inside, induction, leads_with_char_iff inside]
      · have outside : isMailChar c = false := by simpa using inside
        rw [if_neg inside]
        constructor
        · intro ran
          cases inRun with
          | false => cases ran
          | true =>
              by_cases point : c = '.'
              · rw [point] at ran ⊢
                exact leads_with_point ((induction false).mp ran)
              · by_cases sign : c = '@'
                · rw [sign] at ran ⊢
                  have same : later = rest := by simpa using ran
                  exact ⟨[], [], by simp, Or.inl rfl, by simp, by rw [same]; rfl⟩
                · simp [point, sign] at ran
        · intro leads
          obtain ⟨begun, ends⟩ := leads_with_other outside leads
          rcases ends with ⟨sign, same⟩ | ⟨point, next⟩
          · simp [begun, sign, same]
          · simp [begun, point, (induction false).mpr next]

theorem after_mail_name_iff (text rest : List Char) :
    afterMailName? false text = some rest ↔
      ∃ name, IsMailName name ∧ text = name ++ '@' :: rest := by
  rw [after_mail_name_runs_iff]
  constructor
  · intro leads
    obtain ⟨run, runs, all, begun, each, split⟩ := leads
    have own := (is_mail_run_iff run).mpr ⟨begun.resolve_left (by decide), all⟩
    exact ⟨_, .spelled (run :: runs) (by simp) (List.forall_mem_cons.mpr ⟨own, each⟩), split⟩
  · intro parts
    obtain ⟨name, ⟨runs, some, each⟩, split⟩ := parts
    cases runs with
    | nil => exact absurd rfl some
    | cons run others =>
        have own := List.forall_mem_cons.mp each
        have inside := (is_mail_run_iff run).mp own.1
        exact ⟨run, others, inside.2, Or.inr inside.1, own.2, split⟩

theorem IsMailName.not_mem {name : List Char} (named : IsMailName name) {c : Char}
    (outside : isMailChar c = false) (noPoint : c ≠ '.') : c ∉ name := by
  cases named with
  | spelled runs some each =>
      intro member
      rcases mem_joined member with between | ⟨run, listed, inside⟩
      · exact noPoint (List.mem_singleton.mp between)
      · have own := (is_mail_run_iff run).mp (each run listed)
        exact not_mem_of_refused own.2 outside inside

/-! ## Mail addresses -/

/-- A name and a host with an at sign between them, and no other at sign. -/
inductive IsMailAddress : List Char → Prop
  | spelled (name host : List Char) (named : IsMailName name) (hosted : IsHostName host)
      (single : '@' ∉ name ∧ '@' ∉ host) : IsMailAddress (name ++ '@' :: host)

/-- The form of an address, its length aside. -/
def isMailLine (line : List Char) : Bool := (afterMailName? false line).any (isHostName false [])

theorem is_mail_line_iff (line : List Char) : isMailLine line = true ↔ IsMailAddress line := by
  simp only [isMailLine, Option.any_eq_true, after_mail_name_iff, is_host_name_iff]
  constructor
  · intro parts
    obtain ⟨host, ⟨name, named, split⟩, hosted⟩ := parts
    rw [split]
    exact .spelled name host named hosted
      ⟨named.not_mem (by decide) (by decide), hosted.not_mem (by decide) (by decide) (by decide)⟩
  · intro address
    cases address with
    | spelled name host named hosted single => exact ⟨host, ⟨name, named, rfl⟩, hosted⟩

theorem mail_address_line (text : List Char) :
    isMailAddress text = true ↔ text.length ≤ 254 ∧ isMailLine (lineOf text) = true := by
  rw [isMailAddress, Bool.and_eq_true, decide_eq_true_eq, isMailLine]
  cases afterMailName? false (lineOf text) <;> rfl

theorem IsMailAddress.not_feed {line : List Char} (address : IsMailAddress line) : '\n' ∉ line := by
  cases address with
  | spelled name host named hosted single =>
      have before := named.not_mem (c := '\n') (by decide) (by decide)
      have behind := hosted.not_mem (c := '\n') (by decide) (by decide) (by decide)
      simp [before, behind]

end DocumentRules.Format
