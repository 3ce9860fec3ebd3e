import DocumentRules.Proofs.Check.Located
import DocumentRules.Proofs.Run.Alike
import DocumentRules.Proofs.Validator.Order

/-!
Two checks in lockstep. They end alike when their steps can be paired so that the steps of each
pair end alike, as far as the first check comes; and two values are checked alike when the
checks of their tables can be paired so.
-/

set_option autoImplicit false

namespace DocumentRules

open Run (Alike)

variable {related : Violation → Violation → Prop}

/-- Two lists of steps for two values end alike when each step that the first value comes to ends
like its fellow. -/
theorem CheckStep.run_all_alike {pairs : CheckStep → CheckStep → Prop} {field : String}
    {value other : Value} {steps others : List CheckStep}
    (paired : List.Forall₂ pairs steps others)
    (alike : ∀ before step after fellow, steps = before ++ step :: after →
      (∀ earlier ∈ before, earlier.Passes value) → pairs step fellow →
      Alike (Option.Rel related) (step.run field value).outcome (fellow.run field other).outcome) :
    Alike (Option.Rel related) (runAll field value steps).outcome
      (runAll field other others).outcome := by
  induction paired with
  | nil => exact .given .none
  | @cons step fellow rest restOther own _ induction =>
      rw [runAll, runAll]
      apply Alike.bind (alike [] step rest fellow rfl (by simp) own)
      intro found foundOther ran results
      cases results with
      | some violations => exact .given (.some violations)
      | none =>
          apply induction
          intro before next after nextOther listed passed
          apply alike (step :: before) next after nextOther (congrArg (List.cons step) listed)
          exact List.forall_mem_cons.mpr ⟨(run_passes_iff field value step).mp ran, passed⟩

/-- Tables whose entries go along lead to checks that go along, in values in which every path
stands for the same concrete paths. -/
theorem LocatedCheck.located_paired {relates : TableEntry → TableEntry → Prop}
    {pairs : LocatedCheck → LocatedCheck → Prop} {value other : Value} {place : Path}
    {entries others : List TableEntry} (each : List.Forall₂ relates entries others)
    (path : ∀ entry fellow, relates entry fellow → fellow.path = entry.path)
    (instances : ∀ path : Path, path.instances value = path.instances other)
    (paired : ∀ entry fellow, relates entry fellow → ∀ concrete,
      pairs ⟨place ++ concrete, value.follow concrete, entry.rule⟩
        ⟨place ++ concrete, other.follow concrete, fellow.rule⟩) :
    List.Forall₂ pairs (TableEntry.locatedChecks value place entries)
      (TableEntry.locatedChecks other place others) := by
  rw [TableEntry.located_checks_flat, TableEntry.located_checks_flat]
  apply List.rel_flatMap
  · apply List.rel_append
    · apply List.rel_filter _ each
      intro entry fellow own
      change (!entry.path.hasEvery) = true ↔ (!fellow.path.hasEvery) = true
      rw [path entry fellow own]
    · apply List.rel_filter _ each
      intro entry fellow own
      change entry.path.hasEvery = true ↔ fellow.path.hasEvery = true
      rw [path entry fellow own]
  · intro entry fellow own
    rw [TableEntry.runningChecks, TableEntry.runningChecks, path entry fellow own,
      instances entry.path]
    apply List.forall₂_map_left_iff.mpr
    apply List.forall₂_map_right_iff.mpr
    exact List.forall₂_same.mpr fun concrete _ => paired entry fellow own concrete

theorem LocatedCheck.found_alike {words : Vocabulary} {check other : LocatedCheck}
    (outcomes : Alike (Option.Rel related) (check.outcome words).outcome
      (other.outcome words).outcome) :
    Alike (List.Forall₂ related) (check.found words).outcome
      (other.found words).outcome := by
  apply Alike.bind outcomes
  intro found foundOther _ results
  cases results with
  | none => exact .given .nil
  | some violations => exact .given (.cons violations .nil)

/-- Two values are checked alike against two schemas when the checks of the tables can be paired so
that each one that the first value comes to ends like its fellow. -/
theorem checks_alike {pairs : LocatedCheck → LocatedCheck → Prop} {value other : Value}
    {source sourceOther : SchemaSource} {schema schemaOther : Schema} {registry : Option Registry}
    {place : Path} (container : value.isContainer = true)
    (containerOther : other.isContainer = true) (read : source.read = .ok schema)
    (readOther : sourceOther.read = .ok schemaOther)
    (paired : List.Forall₂ pairs (TableEntry.locatedChecks value place schema.table)
      (TableEntry.locatedChecks other place schemaOther.table))
    (alike : ∀ check fellow,
      Run.Reaches (LocatedCheck.found (knownTo registry))
        (TableEntry.locatedChecks value place schema.table) check →
      pairs check fellow →
      Alike (Option.Rel related) (check.outcome (knownTo registry)).outcome
        (fellow.outcome (knownTo registry)).outcome) :
    Alike (List.Forall₂ related) (check value source registry place).outcome
      (check other sourceOther registry place).outcome := by
  rw [check_of_read container read, check_of_read containerOther readOther]
  apply Alike.flat_map paired
  intro check fellow reaches own
  exact LocatedCheck.found_alike (alike check fellow reaches own)

end DocumentRules
