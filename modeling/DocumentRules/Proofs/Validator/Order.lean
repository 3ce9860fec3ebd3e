import DocumentRules.Proofs.Validator.Passing
import DocumentRules.Proofs.Validator.Violations
import Mathlib.Data.List.Forall2

/-!
The check of one field as a list of steps. Every name is looked up before anything is asked,
in the registry first and then among the core, and a callable under a name that neither has
stands for itself; the first name that stands for nothing is the fault. After that the type
test, if there is one, and the predicates are taken one by one, up to and including the
first step that the value does not pass, and what that step comes to is what the check comes
to. The calls are those of the steps taken.
-/

set_option autoImplicit false

namespace DocumentRules

/-! ## Names -/

namespace Registry

/-- The entry of a name in the registry, if it has the name, and in the core otherwise. -/
inductive StandsFor (words : Vocabulary) (name : String) (entry : RegistryEntry) : Prop
  | registered {known : Registry} (given : words.registry = some known)
      (found : known.find? name = some entry)
  | core (absent : ∀ known, words.registry = some known → name ∉ known.names)
      (found : words.core.find? name = some entry)

def Lacks (words : Vocabulary) (name : String) : Prop :=
  (∀ known, words.registry = some known → name ∉ known.names) ∧ name ∉ words.core.names

theorem not_named_iff (registry : Registry) (name : String) :
    name ∉ registry.names ↔ registry.find? name = none := by
  rw [← found_iff_named, Classical.not_not]

variable {words : Vocabulary} {name : String}

theorem resolve_some_iff (entry : RegistryEntry) :
    resolve? words name = some entry ↔ StandsFor words name entry := by
  constructor
  · obtain ⟨registry, core⟩ := words
    intro resolved
    cases registry with
    | none => exact .core nofun resolved
    | some known =>
        cases found : known.find? name with
        | some own =>
            simp only [resolve?, Option.bind_some, found] at resolved
            exact .registered rfl (found.trans resolved)
        | none =>
            simp only [resolve?, Option.bind_some, found] at resolved
            refine .core ?_ resolved
            intro other same
            cases same
            exact (not_named_iff known name).mpr found
  · intro stands
    cases stands with
    | registered given found => simp only [resolve?, given, Option.bind_some, found]
    | core absent found =>
        obtain ⟨registry, core⟩ := words
        cases registry with
        | none => exact found
        | some known =>
            have missing := (not_named_iff known name).mp (absent known rfl)
            simp only [resolve?, Option.bind_some, missing, found]

theorem resolve_none_iff : resolve? words name = none ↔ Lacks words name := by
  obtain ⟨registry, core⟩ := words
  rw [Lacks, not_named_iff]
  cases registry with
  | none => simp [resolve?]
  | some known =>
      simp only [Option.some.injEq, forall_eq', not_named_iff]
      cases found : known.find? name <;> simp [resolve?, found]

end Registry

namespace Validator

/-- What an entry of a validation comes to. A true boolean stands for no arguments, a list for its
items and anything else for itself. -/
inductive IsMade (words : Vocabulary) (name : String) : Declaration → Validator → Prop
  | bare {entry : RegistryEntry} (known : Registry.StandsFor words name entry) :
      IsMade words name (.bool true) ⟨name, entry.predicate, .none, [], entry.textual⟩
  | several {entry : RegistryEntry} {items : List Declaration}
      (known : Registry.StandsFor words name entry) :
      IsMade words name (.list items)
        ⟨name, entry.predicate, .several, items.map Datum.plain, entry.textual⟩
  | single {entry : RegistryEntry} {given : Declaration}
      (known : Registry.StandsFor words name entry) (argued : given ≠ .bool true)
      (one : ∀ items, given ≠ .list items) :
      IsMade words name given ⟨name, entry.predicate, .single, [given.plain], entry.textual⟩
  | adHoc {predicate : Predicate} (unknown : Registry.Lacks words name) :
      IsMade words name (.callable predicate) ⟨name, predicate, .adHoc, [], false⟩

/-- The name stands for nothing and nothing that can be called is given for it. -/
def IsUnknown (words : Vocabulary) (entry : String × Declaration) : Prop :=
  Registry.Lacks words entry.1 ∧ ∀ predicate, entry.2 ≠ .callable predicate

variable {words : Vocabulary} {name : String} {given : Declaration}

theorem of_entry_made {entry : RegistryEntry} (known : Registry.StandsFor words name entry)
    (given : Declaration) : IsMade words name given (ofEntry name entry given) := by
  unfold ofEntry
  split
  · exact .bare known
  · exact .several known
  · rename_i argued one
    exact .single known argued one

theorem of_resolve {validator : Validator}
    (resolved : resolve words name given = .ok validator) :
    IsMade words name given validator := by
  unfold resolve at resolved
  cases looked : Registry.resolve? words name with
  | some entry =>
      rw [looked] at resolved
      cases resolved
      exact of_entry_made ((Registry.resolve_some_iff entry).mp looked) given
  | none =>
      rw [looked] at resolved
      cases given with
      | callable predicate =>
          cases resolved
          exact .adHoc (Registry.resolve_none_iff.mp looked)
      | _ => cases resolved

theorem IsMade.resolves {validator : Validator} (made : IsMade words name given validator) :
    resolve words name given = .ok validator := by
  cases made with
  | bare known => simp only [resolve, (Registry.resolve_some_iff _).mpr known, ofEntry]
  | several known => simp only [resolve, (Registry.resolve_some_iff _).mpr known, ofEntry]
  | single known argued one =>
      simp only [resolve, (Registry.resolve_some_iff _).mpr known]
      unfold ofEntry
      split
      · exact absurd rfl argued
      · exact absurd rfl (one _)
      · rfl
  | adHoc unknown => simp only [resolve, Registry.resolve_none_iff.mpr unknown]

theorem resolve_error_iff (fault : Fault) :
    resolve words name given = .error fault ↔
      IsUnknown words (name, given) ∧ fault = .schema (.unknownValidator name) := by
  rw [IsUnknown, ← Registry.resolve_none_iff]
  cases looked : Registry.resolve? words name with
  | some entry => simp [resolve, looked]
  | none => cases given <;> simp [resolve, looked, eq_comm]

theorem resolve_done_iff :
    Run.discard (resolve words name given) = .ok () ↔ ¬IsUnknown words (name, given) := by
  rw [Run.discard_ok_iff]
  cases resolved : resolve words name given with
  | ok validator =>
      refine iff_of_true ⟨validator, rfl⟩ fun unknown => ?_
      have failed := (resolve_error_iff _).mpr ⟨unknown, rfl⟩
      rw [resolved] at failed
      cases failed
  | error fault =>
      have unknown := ((resolve_error_iff fault).mp resolved).1
      exact iff_of_false nofun fun known => known unknown

end Validator

/-! ## Items -/

namespace Violation

/-- The violation says of a value at a field that it did not pass a step. -/
structure Blames (step field : String) (value : Value) (arguments : List Value)
    (cause : Option Breakdown) (violation : Violation) : Prop where
  message : violation.message = .text ("Validation " ++ step ++ " on " ++ field ++ " failed")
  path : violation.path = .text field
  value : violation.value = value
  validator : violation.validator = .text step
  validatorName : violation.validatorName = .text step
  arguments : violation.arguments = arguments
  cause : violation.cause = cause

/-- The violation is the one that was found, with the field in the place of a missing path. -/
structure Places (field : String) (violation found : Violation) : Prop where
  message : violation.message = found.message
  missing : found.path = .null → violation.path = .text field
  given : found.path ≠ .null → violation.path = found.path
  value : violation.value = found.value
  validator : violation.validator = found.validator
  validatorName : violation.validatorName = found.validatorName
  arguments : violation.arguments = found.arguments
  cause : violation.cause = found.cause

theorem of_step_blames (step field : String) (value : Value) (arguments : List Value)
    (cause : Option Breakdown) :
    (ofStep step field value arguments cause).Blames step field value arguments cause := by
  constructor <;> rfl

theorem Blames.eq_of_step {step field : String} {value : Value} {arguments : List Value}
    {cause : Option Breakdown} {violation : Violation}
    (blames : violation.Blames step field value arguments cause) :
    violation = ofStep step field value arguments cause := by
  obtain ⟨message, path, shown, validator, validatorName, listed, reason⟩ := blames
  cases violation
  simp only at message path shown validator validatorName listed reason
  rw [message, path, shown, validator, validatorName, listed, reason]
  rfl

theorem placed_at_places (field : String) (found : Violation) :
    (found.placedAt field).Places field found := by
  cases path : found.path with
  | null => constructor <;> simp [placedAt, path]
  | _ => constructor <;> simp [placedAt, path]

theorem Places.eq_placed_at {field : String} {found violation : Violation}
    (places : violation.Places field found) : violation = found.placedAt field := by
  have other := placed_at_places field found
  obtain ⟨message, missing, given, shown, validator, validatorName, listed, reason⟩ := places
  have path : violation.path = (found.placedAt field).path := by
    by_cases null : found.path = .null
    · rw [missing null, other.missing null]
    · rw [given null, other.given null]
  generalize found.placedAt field = placed at other path ⊢
  cases violation
  cases placed
  simp only [Violation.mk.injEq]
  exact ⟨message.trans other.message.symm, path, shown.trans other.value.symm,
    validator.trans other.validator.symm, validatorName.trans other.validatorName.symm,
    listed.trans other.arguments.symm, reason.trans other.cause.symm⟩

end Violation

/-! ## Steps -/

namespace Validator

/-- What a predicate is asked about: the value, or the text that stands for it. -/
inductive Asks (validator : Validator) (value : Value) : Value → Prop
  | raw (plain : validator.textual = false) : Asks validator value value
  | truth (textual : validator.textual = true) (truth : value = .bool true) :
      Asks validator value (.text "true")
  | nothing (textual : validator.textual = true) (nothing : value.IsNothing) :
      Asks validator value (.text "")
  | written (textual : validator.textual = true) (other : value ≠ .bool true)
      (holds : ¬value.IsNothing) (short : ¬value.HoldsLong) :
      Asks validator value (.text value.display)

/-- What an answer comes to: nothing, a violation or a fault. -/
inductive Means (validator : Validator) (field : String) (subject : Value) :
    Answer → Except Fault (Option Violation) → Prop
  | holds : Means validator field subject (.verdict true) (.ok none)
  | fails {violation : Violation}
      (blames : violation.Blames validator.name field subject validator.arguments none) :
      Means validator field subject (.verdict false) (.ok (some violation))
  | reports {found violation : Violation} (places : violation.Places field found) :
      Means validator field subject (.violation found) (.ok (some violation))
  | returns {failure : Failure} :
      Means validator field subject (.returned failure)
        (.error (.returnedFailure validator.name failure.kind))
  | breaksOwn {cause : Breakdown} {violation : Violation} (own : validator.form = .adHoc)
      (blames : violation.Blames validator.name field subject validator.arguments (some cause)) :
      Means validator field subject (.broken cause) (.ok (some violation))
  | breaks {cause : Breakdown} (named : validator.form ≠ .adHoc) :
      Means validator field subject (.broken cause) (.error (.breakdown cause))

section Answers

variable {validator : Validator} {field : String} {value subject : Value}

theorem asks_plain_iff (plain : validator.textual = false) :
    validator.Asks value subject ↔ subject = value := by
  constructor
  · intro asks
    cases asks with
    | raw _ => rfl
    | truth textual _ | nothing textual _ | written textual _ _ _ =>
        rw [plain] at textual
        cases textual
  · rintro rfl
    exact .raw plain

theorem subject_of_asks (textual : validator.textual = true)
    (asks : validator.Asks value subject) :
    value.isWritable = true ∧ subject = .text value.subject := by
  cases asks with
  | raw plain =>
      rw [textual] at plain
      cases plain
  | truth _ truth => exact truth ▸ ⟨rfl, rfl⟩
  | nothing _ nothing =>
      cases nothing with
      | floatZero zero => exact ⟨rfl, by simp [Datum.subject, Datum.holds, zero]⟩
      | _ => exact ⟨rfl, rfl⟩
  | written _ other holds short =>
      have present : value.holds = true := by
        rwa [← Datum.not_holds_iff, Bool.not_eq_false] at holds
      refine ⟨(value.writable_iff).mpr short, ?_⟩
      unfold Datum.subject
      split
      · exact absurd rfl other
      · rw [if_pos present]

theorem asks_subject (textual : validator.textual = true) (writable : value.isWritable = true) :
    validator.Asks value (.text value.subject) := by
  unfold Datum.subject
  split
  · exact .truth textual rfl
  · rename_i other
    by_cases present : value.holds = true
    · rw [if_pos present]
      refine .written textual (fun truth => other truth) ?_ ((value.writable_iff).mp writable)
      rw [← Datum.not_holds_iff, present]
      exact Bool.noConfusion
    · rw [if_neg present]
      exact .nothing textual ((value.not_holds_iff).mp (Bool.not_eq_true _ ▸ present))

theorem asks_iff :
    validator.Asks value subject ↔
      validator.canAsk value = true ∧ subject = validator.subjectOf value := by
  cases textual : validator.textual with
  | false =>
      have can : validator.canAsk value = true := by simp [canAsk, textual]
      have own : validator.subjectOf value = value := by simp [subjectOf, textual]
      rw [asks_plain_iff textual, can, own]
      exact (and_iff_right rfl).symm
  | true =>
      have can : validator.canAsk value = value.isWritable := by simp [canAsk, textual]
      have own : validator.subjectOf value = .text value.subject := by simp [subjectOf, textual]
      rw [can, own]
      refine ⟨subject_of_asks textual, ?_⟩
      rintro ⟨writable, rfl⟩
      exact asks_subject textual writable

theorem means_iff (answer : Answer) (outcome : Except Fault (Option Violation)) :
    validator.Means field subject answer outcome ↔
      validator.judge field subject answer = outcome := by
  constructor
  · intro means
    cases means with
    | holds => rfl
    | fails blames => rw [blames.eq_of_step]; rfl
    | reports places => rw [places.eq_placed_at]; rfl
    | returns => rfl
    | breaksOwn own blames => rw [blames.eq_of_step, judge, if_pos own]; rfl
    | breaks named => rw [judge, if_neg named]
  · rintro rfl
    cases answer with
    | verdict passes =>
        cases passes with
        | true => exact .holds
        | false => exact .fails (Violation.of_step_blames _ _ _ _ _)
    | violation found => exact .reports (Violation.placed_at_places field found)
    | returned failure => exact .returns
    | broken cause =>
        by_cases own : validator.form = .adHoc
        · rw [judge, if_pos own]
          exact .breaksOwn own (Violation.of_step_blames _ _ _ _ _)
        · rw [judge, if_neg own]
          exact .breaks own

end Answers

end Validator

namespace CheckStep

/-- What a step comes to: the calls it makes, and nothing, a violation or a fault. A type test calls
nothing; a predicate is called once, with the value or its text, unless that cannot be written. -/
inductive ComesTo (field : String) (value : Value) : CheckStep → Run (Option Violation) → Prop
  | admitted {tag : TypeTag} (fits : tag.admits value = true) :
      ComesTo field value (.typeTest (.text tag.name)) ⟨[], .ok none⟩
  | refused {tag : TypeTag} {violation : Violation} (unfit : tag.admits value = false)
      (blames : violation.Blames "type" field value [.text tag.name] none) :
      ComesTo field value (.typeTest (.text tag.name)) ⟨[], .ok (some violation)⟩
  | asked {validator : Validator} {subject : Value} {outcome : Except Fault (Option Violation)}
      (asks : validator.Asks value subject)
      (means : validator.Means field subject
        (validator.predicate.answer subject validator.arguments) outcome) :
      ComesTo field value (.predicateCall validator)
        ⟨[⟨validator.name, subject, validator.arguments, validator.predicate.watched⟩], outcome⟩
  | unwritten {validator : Validator} (textual : validator.textual = true)
      (long : value.HoldsLong) :
      ComesTo field value (.predicateCall validator) ⟨[], .error (.breakdown .tooManyDigits)⟩

/-- Steps are taken one by one, up to and including the first that the value does not pass. -/
inductive Takes (field : String) (value : Value) :
    List CheckStep → Run (Option Violation) → Prop
  | done : Takes field value [] ⟨[], .ok none⟩
  | passes {step : CheckStep} {later : List CheckStep} {calls others : List Call}
      {outcome : Except Fault (Option Violation)}
      (comes : step.ComesTo field value ⟨calls, .ok none⟩)
      (rest : Takes field value later ⟨others, outcome⟩) :
      Takes field value (step :: later) ⟨calls ++ others, outcome⟩
  | stops {step : CheckStep} {later : List CheckStep} {calls : List Call}
      {outcome : Except Fault (Option Violation)}
      (comes : step.ComesTo field value ⟨calls, outcome⟩) (stops : outcome ≠ .ok none) :
      Takes field value (step :: later) ⟨calls, outcome⟩

section Run

variable {field : String} {value : Value} {run : Run (Option Violation)}

theorem ComesTo.eq_run {step : CheckStep} (comes : step.ComesTo field value run) :
    step.run field value = run := by
  cases comes with
  | admitted fits =>
      rw [CheckStep.run, test_named_type, if_pos fits]
      rfl
  | refused unfit blames =>
      rw [CheckStep.run, test_named_type, unfit, blames.eq_of_step]
      rfl
  | asked asks means =>
      obtain ⟨can, rfl⟩ := Validator.asks_iff.mp asks
      rw [CheckStep.run, Validator.run, if_pos can, ← (Validator.means_iff _ _).mp means]
      rfl
  | unwritten textual long =>
      rename_i validator
      have cannot : validator.canAsk value = false := by
        rw [Validator.canAsk, textual, long.unwritable]
        rfl
      rw [CheckStep.run, Validator.run, cannot]
      rfl

theorem type_test_comes (tag : TypeTag) :
    ∃ run, (typeTest (.text tag.name)).ComesTo field value run := by
  cases fits : tag.admits value with
  | true => exact ⟨_, .admitted fits⟩
  | false => exact ⟨_, .refused fits (Violation.of_step_blames _ _ _ _ _)⟩

theorem predicate_call_comes (validator : Validator) :
    ∃ run, (predicateCall validator).ComesTo field value run := by
  cases can : validator.canAsk value with
  | true =>
      exact ⟨_, .asked (Validator.asks_iff.mpr ⟨can, rfl⟩) ((Validator.means_iff _ _).mpr rfl)⟩
  | false =>
      simp only [Validator.canAsk, Bool.or_eq_false_iff, Bool.not_eq_false'] at can
      exact ⟨_, .unwritten can.1 ((value.unwritable_iff).mp can.2)⟩

theorem Takes.eq_run {steps : List CheckStep} (takes : Takes field value steps run) :
    runAll field value steps = run := by
  induction takes with
  | done => rfl
  | passes comes _ induction => rw [runAll, comes.eq_run, Run.bind, induction]
  | stops comes stops =>
      rename_i outcome
      rw [runAll, comes.eq_run, Run.bind]
      cases outcome with
      | error fault => rfl
      | ok found =>
          cases found with
          | none => exact absurd rfl stops
          | some violation => simp [Run.pure]

theorem exists_takes (steps : List CheckStep)
    (each : ∀ step ∈ steps, ∃ run, step.ComesTo field value run) :
    ∃ run, Takes field value steps run := by
  induction steps with
  | nil => exact ⟨_, .done⟩
  | cons step later induction =>
      obtain ⟨⟨⟨calls, outcome⟩, comes⟩, others⟩ := List.forall_mem_cons.mp each
      by_cases passes : outcome = .ok none
      · subst passes
        obtain ⟨⟨_, _⟩, rest⟩ := induction others
        exact ⟨_, .passes comes rest⟩
      · exact ⟨_, .stops comes passes⟩

end Run

end CheckStep

/-! ## The whole check -/

/-- The validators are what the entries of a validation come to, one for one. -/
def Validation.Makes (words : Vocabulary) (validation : Validation)
    (validators : List Validator) : Prop :=
  List.Forall₂ (fun entry validator => Validator.IsMade words entry.1 entry.2 validator)
    validation validators

section Validation

variable {words : Vocabulary} {validation : Validation}

theorem Validation.of_steps {steps : List CheckStep}
    (ran : CheckStep.ofValidation words validation = .ok steps) :
    ∃ validators, validation.Makes words validators := by
  induction validation generalizing steps with
  | nil => exact ⟨[], .nil⟩
  | cons entry rest induction =>
      obtain ⟨validator, resolved, ran⟩ := Run.except_bind_ok ran
      obtain ⟨later, others, _⟩ := Run.except_bind_ok ran
      obtain ⟨validators, made⟩ := induction others
      exact ⟨validator :: validators, .cons (Validator.of_resolve resolved) made⟩

theorem Validation.Makes.steps {validators : List Validator}
    (made : validation.Makes words validators) :
    CheckStep.ofValidation words validation = .ok (validators.map .predicateCall) := by
  induction made with
  | nil => rfl
  | cons own _ induction =>
      rw [CheckStep.ofValidation, own.resolves, induction]
      rfl

theorem Validation.resolved_in_order :
    Run.discard (CheckStep.ofValidation words validation) =
      forM validation fun entry => Run.discard (Validator.resolve words entry.1 entry.2) := by
  induction validation with
  | nil => rfl
  | cons entry rest induction =>
      rw [CheckStep.ofValidation, List.forM_cons, ← induction]
      exact Run.discard_both _ _ _

/-- The names are at fault by the first of them that is unknown. -/
theorem Validation.steps_error_iff (fault : Fault) :
    CheckStep.ofValidation words validation = .error fault ↔
      ∃ before entry after, validation = before ++ entry :: after ∧
        (∀ other ∈ before, ¬Validator.IsUnknown words other) ∧
        Validator.IsUnknown words entry ∧ fault = .schema (.unknownValidator entry.1) := by
  rw [← Run.discard_error_iff, resolved_in_order, Run.for_all_error_iff]
  simp only [Run.discard_error_iff, Validator.resolve_error_iff, Validator.resolve_done_iff]

end Validation

namespace Rule

/-- The type test, if a type is declared, and then the validators. -/
def stepsWith (rule : Rule) (validators : List Validator) : List CheckStep :=
  (rule.tag.map fun tag => CheckStep.typeTest (.text tag.name)).toList ++
    validators.map .predicateCall

/-- How the check of a value goes: the calls that are made and what they come to. All names are
looked up before the value is asked about at all. -/
inductive ChecksAs (words : Vocabulary) (rule : Rule) (field : String) (value : Value) :
    Run (Option Violation) → Prop
  | unknown {before after : Validation} {entry : String × Declaration}
      (listed : rule.validation.getD [] = before ++ entry :: after)
      (known : ∀ other ∈ before, ¬Validator.IsUnknown words other)
      (first : Validator.IsUnknown words entry) :
      ChecksAs words rule field value ⟨[], .error (.schema (.unknownValidator entry.1))⟩
  | known {validators : List Validator} {run : Run (Option Violation)}
      (made : Validation.Makes words (rule.validation.getD []) validators)
      (takes : CheckStep.Takes field value (rule.stepsWith validators) run) :
      ChecksAs words rule field value run

variable {words : Vocabulary} {rule : Rule} {field : String} {value : Value}

theorem check_of_made {validators : List Validator}
    (made : Validation.Makes words (rule.validation.getD []) validators) :
    rule.check words field value = CheckStep.runAll field value (rule.stepsWith validators) := by
  rw [check, CheckStep.of_rule_steps, made.steps]
  exact Run.bind_pure _ _

theorem check_of_unknown {fault : Fault}
    (unknown : CheckStep.ofValidation words (rule.validation.getD []) = .error fault) :
    rule.check words field value = ⟨[], .error fault⟩ := by
  rw [check, CheckStep.of_rule_error_iff.mpr unknown]
  rfl

theorem step_comes {validators : List Validator} {step : CheckStep}
    (member : step ∈ rule.stepsWith validators) : ∃ run, step.ComesTo field value run := by
  rcases List.mem_append.mp member with test | call
  · obtain ⟨tag, _, rfl⟩ := Option.map_eq_some_iff.mp (Option.mem_toList.mp test)
    exact CheckStep.type_test_comes tag
  · obtain ⟨validator, _, rfl⟩ := List.mem_map.mp call
    exact CheckStep.predicate_call_comes validator

theorem ChecksAs.eq_check {run : Run (Option Violation)}
    (checks : ChecksAs words rule field value run) : rule.check words field value = run := by
  cases checks with
  | unknown listed known first =>
      apply check_of_unknown
      exact (Validation.steps_error_iff _).mpr ⟨_, _, _, listed, known, first, rfl⟩
  | known made takes => rw [check_of_made made, takes.eq_run]

theorem exists_checks_as (words : Vocabulary) (rule : Rule) (field : String)
    (value : Value) : ∃ run, ChecksAs words rule field value run := by
  cases looked : CheckStep.ofValidation words (rule.validation.getD []) with
  | error fault =>
      obtain ⟨before, entry, after, listed, known, first, _⟩ :=
        (Validation.steps_error_iff fault).mp looked
      exact ⟨_, .unknown listed known first⟩
  | ok steps =>
      obtain ⟨validators, made⟩ := Validation.of_steps looked
      obtain ⟨run, takes⟩ := CheckStep.exists_takes (rule.stepsWith validators) fun _ => step_comes
      exact ⟨run, .known made takes⟩

/-- The check of a field makes the calls and has the outcome that its steps give it, and no
others. -/
theorem check_run_iff (words : Vocabulary) (rule : Rule) (field : String) (value : Value)
    (run : Run (Option Violation)) :
    rule.check words field value = run ↔ ChecksAs words rule field value run := by
  constructor
  · -- Some run is described, and what is described is the check.
    intro ran
    obtain ⟨other, checks⟩ := exists_checks_as words rule field value
    rw [← ran, checks.eq_check]
    exact checks
  · exact ChecksAs.eq_check

end Rule

end DocumentRules
