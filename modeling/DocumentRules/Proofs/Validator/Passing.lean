import DocumentRules.Proofs.Check.Located
import DocumentRules.Proofs.Value.Writing

/-!
When a check finds nothing. A step passes when its type admits the value or its
predicate says so, whatever the field is called; a rule admits a value when all of its
steps pass, and null when that is allowed. A check is without violations exactly when
every rule of the table admits what stands at each of its places. It cannot fail where
the value can be written and no step of any rule breaks down over what can.
-/

set_option autoImplicit false

namespace DocumentRules

namespace Validator

/-- What the predicate answers about a value, if it can be asked. -/
def answerFor (validator : Validator) (value : Value) : Option Answer :=
  if validator.canAsk value then
    some (validator.predicate.answer (validator.subjectOf value) validator.arguments)
  else none

/-- What an answer comes to, or that none was to be had. -/
def conclude (validator : Validator) (field : String) (subject : Value) :
    Option Answer → Except Fault (Option Violation)
  | some answer => validator.judge field subject answer
  | none => .error (.breakdown .tooManyDigits)

theorem run_outcome (validator : Validator) (field : String) (value : Value) :
    (validator.run field value).outcome =
      validator.conclude field (validator.subjectOf value) (validator.answerFor value) := by
  rw [run, answerFor]
  cases validator.canAsk value <;> rfl

theorem judge_passes_iff (validator : Validator) (field : String) (subject : Value)
    (answer : Answer) :
    validator.judge field subject answer = .ok none ↔ answer = .verdict true := by
  cases answer with
  | verdict passes => cases passes <;> simp [judge]
  | violation found => simp [judge]
  | returned failure => simp [judge]
  | broken cause =>
      by_cases adHoc : validator.form = .adHoc <;> simp [judge, adHoc]

theorem conclude_passes_iff (validator : Validator) (field : String) (subject : Value)
    (answer : Option Answer) :
    validator.conclude field subject answer = .ok none ↔ answer = some (.verdict true) := by
  cases answer with
  | none => exact iff_of_false nofun nofun
  | some own => rw [conclude, judge_passes_iff, Option.some.injEq]

theorem judge_verdict (validator : Validator) (field : String) (subject : Value)
    (passes : Bool) : ∃ found, validator.judge field subject (.verdict passes) = .ok found := by
  cases passes <;> exact ⟨_, rfl⟩

end Validator

theorem TypeTag.test_by_name (tag : TypeTag) (value : Value) :
    test (.text tag.name) value = .ok (tag.admits value) := by
  simp only [test, named, of_name_name]
  rfl

namespace CheckStep

theorem test_named_type (tag : TypeTag) (field : String) (value : Value) :
    testType (.text tag.name) field value =
      .ok (if tag.admits value then none
        else some (.ofStep "type" field value [.text tag.name])) := by
  rw [testType, TypeTag.test_by_name]
  rfl

/-- The step finds nothing wrong with the value. -/
def Passes (value : Value) : CheckStep → Prop
  | .typeTest typeName => TypeTag.test typeName value = .ok true
  | .predicateCall validator => validator.answerFor value = some (.verdict true)

/-- The step comes to a verdict about the value. -/
def Decides (value : Value) : CheckStep → Prop
  | .typeTest typeName => ∃ admitted, TypeTag.test typeName value = .ok admitted
  | .predicateCall validator => ∃ passes, validator.answerFor value = some (.verdict passes)

theorem run_passes_iff (field : String) (value : Value) (step : CheckStep) :
    (step.run field value).outcome = .ok none ↔ step.Passes value := by
  cases step with
  | typeTest typeName =>
      change (TypeTag.test typeName value).map _ = .ok none ↔ TypeTag.test typeName value = .ok true
      cases TypeTag.test typeName value with
      | error fault => simp [Except.map]
      | ok admitted => cases admitted <;> simp [Except.map]
  | predicateCall validator =>
      rw [run, Validator.run_outcome]
      exact validator.conclude_passes_iff field (validator.subjectOf value) _

theorem run_succeeds (field : String) (value : Value) (step : CheckStep)
    (decides : step.Decides value) : (step.run field value).Succeeds := by
  cases step with
  | typeTest typeName =>
      obtain ⟨admitted, tested⟩ := decides
      refine ⟨if admitted then none else some (.ofStep "type" field value [typeName]), ?_⟩
      change (TypeTag.test typeName value).map _ = _
      rw [tested]
      rfl
  | predicateCall validator =>
      obtain ⟨passes, answered⟩ := decides
      obtain ⟨found, judged⟩ := validator.judge_verdict field (validator.subjectOf value) passes
      refine ⟨found, ?_⟩
      rw [run, Validator.run_outcome, answered, Validator.conclude, judged]

theorem run_all_passes_iff (field : String) (value : Value) (steps : List CheckStep) :
    (runAll field value steps).outcome = .ok none ↔ ∀ step ∈ steps, step.Passes value := by
  induction steps with
  | nil => simp [runAll, Run.pure]
  | cons step rest induction =>
      rw [runAll, Run.bind_ok_iff, List.forall_mem_cons, ← induction, ← run_passes_iff field]
      constructor
      · rintro ⟨found, first, later⟩
        cases found with
        | none => exact ⟨first, later⟩
        | some violation => cases later
      · rintro ⟨first, later⟩
        exact ⟨none, first, later⟩

theorem run_all_succeeds (field : String) (value : Value) (steps : List CheckStep)
    (decide : ∀ step ∈ steps, step.Decides value) : (runAll field value steps).Succeeds := by
  induction steps with
  | nil => exact ⟨none, rfl⟩
  | cons step rest induction =>
      obtain ⟨found, first⟩ := run_succeeds field value step (decide step List.mem_cons_self)
      cases found with
      | some violation => exact ⟨_, (Run.bind_ok_iff _ _ _).mpr ⟨_, first, rfl⟩⟩
      | none =>
          obtain ⟨last, later⟩ := induction fun other member =>
            decide other (List.mem_cons_of_mem step member)
          exact ⟨last, (Run.bind_ok_iff _ _ _).mpr ⟨none, first, later⟩⟩

end CheckStep

namespace Rule

/-- Null has to be allowed, and anything else has to pass every step of the check. -/
def Admits (words : Vocabulary) (rule : Rule) (value : Value) : Prop :=
  (value.isNull = true ∧ rule.allowNull = true) ∨
    (value.isNull = false ∧ ∃ steps, CheckStep.ofRule words rule = .ok steps ∧
      ∀ step ∈ steps, step.Passes value)

/-- No step of the check can break down over a value that can be written. -/
def Decides (words : Vocabulary) (rule : Rule) : Prop :=
  ∃ steps, CheckStep.ofRule words rule = .ok steps ∧
    ∀ value, value.isWritable = true → ∀ step ∈ steps, step.Decides value

theorem admits_iff {words : Vocabulary} {rule : Rule} {steps : List CheckStep}
    (made : CheckStep.ofRule words rule = .ok steps) (value : Value) :
    rule.Admits words value ↔
      (value = .null ∧ rule.allowNull = true) ∨
        (value ≠ .null ∧ ∀ step ∈ steps, step.Passes value) := by
  have null : value.isNull = true ↔ value = .null := by cases value <;> simp [Datum.isNull]
  rw [Admits, ← Bool.not_eq_true, null, made]
  simp

theorem check_outcome {words : Vocabulary} {rule : Rule} {steps : List CheckStep}
    (made : CheckStep.ofRule words rule = .ok steps) (field : String) (value : Value) :
    (rule.check words field value).outcome = (CheckStep.runAll field value steps).outcome := by
  rw [check, made]
  exact congrArg Run.outcome (Run.bind_pure steps _)

theorem check_passes_iff (words : Vocabulary) (rule : Rule) (field : String)
    (value : Value) :
    (rule.check words field value).outcome = .ok none ↔
      ∃ steps, CheckStep.ofRule words rule = .ok steps ∧ ∀ step ∈ steps, step.Passes value := by
  cases made : CheckStep.ofRule words rule with
  | error fault =>
      rw [check, made]
      simp [Run.ofExcept, Run.bind]
  | ok steps =>
      rw [check_outcome made, CheckStep.run_all_passes_iff]
      simp

end Rule

namespace LocatedCheck

theorem outcome_passes_iff (words : Vocabulary) (check : LocatedCheck) :
    (check.outcome words).outcome = .ok none ↔ check.rule.Admits words check.target := by
  rw [outcome, Rule.Admits]
  cases null : check.target.isNull with
  | true => cases allowed : check.rule.allowNull <;> simp [Run.pure]
  | false => simp [Rule.check_passes_iff]

theorem outcome_succeeds (words : Vocabulary) (check : LocatedCheck)
    (decides : check.rule.Decides words) (writable : check.target.isWritable = true) :
    (check.outcome words).Succeeds := by
  rw [outcome]
  cases null : check.target.isNull with
  | true => exact ⟨_, rfl⟩
  | false =>
      obtain ⟨steps, made, all⟩ := decides
      obtain ⟨found, ran⟩ :=
        CheckStep.run_all_succeeds check.place.label check.target steps (all check.target writable)
      refine ⟨found, ?_⟩
      rw [if_neg (by decide), Rule.check_outcome made, ran]

theorem found_nothing_iff (words : Vocabulary) (check : LocatedCheck) :
    (check.found words).outcome = .ok [] ↔ check.rule.Admits words check.target := by
  rw [found_ok_iff, ← outcome_passes_iff]
  constructor
  · rintro ⟨violation, ran, empty⟩
    cases violation with
    | none => exact ran
    | some own => cases empty
  · intro ran
    exact ⟨none, ran, rfl⟩

end LocatedCheck

theorem Run.flat_map_nothing_iff {α β : Type} (items : List β) (each : β → Run (List α)) :
    (flatMap items each).outcome = .ok [] ↔ ∀ item ∈ items, (each item).outcome = .ok [] := by
  rw [flat_map_ok_iff]
  constructor
  · rintro ⟨all, empty⟩ item member
    have own := List.flatMap_eq_nil_iff.mp empty.symm item member
    rw [outcome_of_succeeds (all item member), own]
  · intro all
    refine ⟨fun item member => ⟨[], all item member⟩, ?_⟩
    symm
    apply List.flatMap_eq_nil_iff.mpr
    intro item member
    rw [result, all item member]

/-- The places that the path of a rule leads to in a value. -/
theorem TableEntry.mem_running {value : Value} {place : Path} {entries : List TableEntry}
    {check : LocatedCheck} :
    check ∈ locatedChecks value place entries ↔
      ∃ entry ∈ entries, ∃ concrete ∈ entry.path.instances value,
        check = ⟨place ++ concrete, value.follow concrete, entry.rule⟩ := by
  rw [(located_checks_perm value place entries).mem_iff, List.mem_flatMap]
  simp only [runningChecks, List.mem_map, eq_comm]

section Check

variable {value : Value} {source : SchemaSource} {schema : Schema} {registry : Option Registry}

/-- A value has no violations when every rule admits what it is applied to. -/
theorem check_nothing_iff (container : value.isContainer = true) (read : source.read = .ok schema)
    (place : Path) :
    (check value source registry place).outcome = .ok [] ↔
      ∀ entry ∈ schema.table, ∀ concrete ∈ entry.path.instances value,
        entry.rule.Admits (knownTo registry) (value.follow concrete) := by
  rw [check_of_read container read, Run.flat_map_nothing_iff]
  simp only [LocatedCheck.found_nothing_iff, TableEntry.mem_running]
  constructor
  · intro all entry listed concrete standing
    exact all _ ⟨entry, listed, concrete, standing, rfl⟩
  · rintro all located ⟨entry, listed, concrete, standing, rfl⟩
    exact all entry listed concrete standing

/-- A check whose rules cannot break down comes to an end. -/
theorem check_succeeds (container : value.isContainer = true) (read : source.read = .ok schema)
    (short : ¬value.HoldsLong)
    (decide : ∀ entry ∈ schema.table, entry.rule.Decides (knownTo registry)) (place : Path) :
    (check value source registry place).Succeeds := by
  rw [check_of_read container read, Run.succeeds_flat_map]
  intro located member
  obtain ⟨entry, listed, concrete, _, rfl⟩ := TableEntry.mem_running.mp member
  have writable : (value.follow concrete).isWritable = true :=
    (Datum.writable_iff _).mpr fun long => short long.of_follow
  exact (LocatedCheck.found_succeeds _ _).mpr
    (LocatedCheck.outcome_succeeds _ _ (decide entry listed) writable)

end Check

end DocumentRules
