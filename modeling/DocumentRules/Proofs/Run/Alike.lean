import DocumentRules.Proofs.Run.Results
import Mathlib.Data.List.Forall2

/-!
Two runs side by side. They end alike when both end in the same fault or both give results that
are related. Rows of runs end alike when they are alike run by run, and a run need only be looked
at where the row comes to it: where every run before it succeeds.
-/

set_option autoImplicit false

namespace DocumentRules.Run

variable {α β γ δ : Type}

/-- Rows that are related item by item are related at every place. -/
theorem related_at {related : α → β → Prop} {items : List α} {others : List β}
    (each : List.Forall₂ related items others) {absent : α} {absentOther : β}
    (outside : related absent absentOther) (place : Nat) :
    related (items[place]?.getD absent) (others[place]?.getD absentOther) := by
  induction each generalizing place with
  | nil => exact outside
  | cons own _ induction =>
      cases place with
      | zero => exact own
      | succ place => exact induction place

theorem related_option {related : α → α → Prop} (reflexive : ∀ item, related item item)
    (found : Option α) : Option.Rel related found found := by
  cases found with
  | none => exact .none
  | some item => exact .some (reflexive item)

/-- Two attempts that end in the same fault, or with results that are related. -/
inductive Alike (related : α → β → Prop) : Except Fault α → Except Fault β → Prop
  | fault (fault : Fault) : Alike related (.error fault) (.error fault)
  | given {one : α} {other : β} (results : related one other) :
      Alike related (.ok one) (.ok other)

/-- A row of runs comes to an item: the runs of all items before it succeed. -/
def Reaches (each : β → Run α) (items : List β) (item : β) : Prop :=
  ∃ before after, items = before ++ item :: after ∧ ∀ earlier ∈ before, (each earlier).Succeeds

section Reaches

variable {each : β → Run α} {item other : β} {items : List β}

theorem Reaches.mem (reaches : Reaches each items item) : item ∈ items := by
  obtain ⟨before, after, listed, _⟩ := reaches
  rw [listed]
  exact List.mem_append_right before List.mem_cons_self

theorem reaches_first : Reaches each (item :: items) item :=
  ⟨[], items, rfl, fun _ inside => absurd inside List.not_mem_nil⟩

theorem Reaches.later (reaches : Reaches each items item) (succeeds : (each other).Succeeds) :
    Reaches each (other :: items) item := by
  obtain ⟨before, after, listed, all⟩ := reaches
  refine ⟨other :: before, after, congrArg (List.cons other) listed, ?_⟩
  exact List.forall_mem_cons.mpr ⟨succeeds, all⟩

end Reaches

namespace Alike

theorem same {related : α → α → Prop} (reflexive : ∀ result, related result result)
    (attempt : Except Fault α) : Alike related attempt attempt := by
  cases attempt with
  | error fault => exact .fault fault
  | ok result => exact .given (reflexive result)

theorem map {related : α → β → Prop} {later : γ → δ → Prop} {first : Except Fault α}
    {second : Except Fault β} (alike : Alike related first second) {change : α → γ}
    {changeOther : β → δ}
    (follows : ∀ one other, related one other → later (change one) (changeOther other)) :
    Alike later (first.map change) (second.map changeOther) := by
  cases alike with
  | fault fault => exact .fault fault
  | given results => exact .given (follows _ _ results)

theorem eq {first second : Except Fault α} (alike : Alike Eq first second) : first = second := by
  cases alike with
  | fault fault => rfl
  | given results => exact congrArg Except.ok results

theorem bind_except {related : α → β → Prop} {later : γ → δ → Prop} {first : Except Fault α}
    {second : Except Fault β} {next : α → Except Fault γ} {nextOther : β → Except Fault δ}
    (alike : Alike related first second)
    (follows : ∀ one other, related one other → Alike later (next one) (nextOther other)) :
    Alike later (first.bind next) (second.bind nextOther) := by
  cases alike with
  | fault fault => exact .fault fault
  | given results => exact follows _ _ results

theorem bind {related : α → β → Prop} {later : γ → δ → Prop} {first : Run α} {second : Run β}
    {next : α → Run γ} {nextOther : β → Run δ}
    (alike : Alike related first.outcome second.outcome)
    (follows : ∀ one other, first.outcome = .ok one → related one other →
      Alike later (next one).outcome (nextOther other).outcome) :
    Alike later (first.bind next).outcome (second.bind nextOther).outcome := by
  obtain ⟨calls, outcome⟩ := first
  obtain ⟨callsOther, outcomeOther⟩ := second
  cases alike with
  | fault fault => exact .fault fault
  | given results => exact follows _ _ rfl results

/-- Rows of runs end alike when each run that the first row comes to ends like its fellow. -/
theorem flat_map {related : α → δ → Prop} {pairs : β → γ → Prop} {each : β → Run (List α)}
    {eachOther : γ → Run (List δ)} {items : List β} {others : List γ}
    (paired : List.Forall₂ pairs items others)
    (alike : ∀ item other, Reaches each items item → pairs item other →
      Alike (List.Forall₂ related) (each item).outcome (eachOther other).outcome) :
    Alike (List.Forall₂ related) (flatMap items each).outcome
      (flatMap others eachOther).outcome := by
  induction paired with
  | nil => exact .given .nil
  | @cons item other rest restOther own _ induction =>
      rw [flat_map_cons, flat_map_cons]
      apply bind (alike item other reaches_first own)
      intro found foundOther ran firsts
      have later := induction fun next fellow reaches =>
        alike next fellow (reaches.later ⟨found, ran⟩)
      apply bind later
      intro more moreOther _ others
      exact .given (List.rel_append firsts others)

end Alike

end DocumentRules.Run
