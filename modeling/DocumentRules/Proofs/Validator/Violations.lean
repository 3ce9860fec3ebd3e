import DocumentRules.Proofs.Run.Results
import DocumentRules.Validator

/-!
Where the violation of a field's check comes from. As long as no predicate makes
violations of its own, it is that of one step: it names the field as its path, the step
as its validator, and it holds the value itself or, for a predicate that wants texts,
the value's text. The bundled and the core predicates make no violations.
-/

set_option autoImplicit false

namespace DocumentRules

/-- The predicate gives verdicts or breaks down and makes no violation of its own. -/
def Predicate.OnlyJudges (predicate : Predicate) : Prop :=
  ∀ subject arguments found, predicate.answer subject arguments ≠ .violation found

theorem Predicate.of_test_only_judges (test : Value → List Value → Except Breakdown Bool) :
    (Predicate.ofTest test).OnlyJudges := by
  intro subject arguments found same
  change Answer.ofTest (test subject arguments) = .violation found at same
  cases verdict : test subject arguments <;> rw [verdict] at same <;> cases same

namespace Registry

def OnlyJudges (registry : Registry) : Prop :=
  ∀ entry ∈ registry.entries, entry.predicate.OnlyJudges

theorem mem_place {name : String} {entry : RegistryEntry} {slots : List (String × RegistryEntry)}
    {slot : String × RegistryEntry} (member : slot ∈ place name entry slots) :
    slot = (name, entry) ∨ slot ∈ slots := by
  induction slots with
  | nil => exact Or.inl (List.mem_singleton.mp member)
  | cons own rest induction =>
      rw [place] at member
      by_cases same : own.1 = name
      · rw [if_pos same] at member
        rcases List.mem_cons.mp member with first | later
        · exact Or.inl first
        · exact Or.inr (List.mem_cons_of_mem own later)
      · rw [if_neg same] at member
        rcases List.mem_cons.mp member with first | later
        · exact Or.inr (first ▸ List.mem_cons_self)
        · rcases induction later with placed | kept
          · exact Or.inl placed
          · exact Or.inr (List.mem_cons_of_mem own kept)

theorem mem_insert {registry : Registry} {entry other : RegistryEntry}
    (member : other ∈ (registry.insert entry).entries) :
    other = entry ∨ other ∈ registry.entries := by
  obtain ⟨slot, inside, same⟩ := List.mem_map.mp member
  rcases mem_place inside with placed | kept
  · exact Or.inl (by rw [← same, placed])
  · exact Or.inr (same ▸ List.mem_map_of_mem kept)

theorem mem_foldl_insert {given : List RegistryEntry} {registry : Registry}
    {entry : RegistryEntry} (member : entry ∈ (given.foldl insert registry).entries) :
    entry ∈ given ∨ entry ∈ registry.entries := by
  induction given generalizing registry with
  | nil => exact Or.inr member
  | cons first rest induction =>
      rcases induction member with later | placed
      · exact Or.inl (List.mem_cons_of_mem first later)
      · rcases mem_insert placed with same | kept
        · exact Or.inl (same ▸ List.mem_cons_self)
        · exact Or.inr kept

theorem mem_of_entries {given : List RegistryEntry} {entry : RegistryEntry}
    (member : entry ∈ (ofEntries given).entries) : entry ∈ given := by
  rcases mem_foldl_insert member with inside | empty
  · exact inside
  · cases empty

theorem of_tests_only_judge (named : List (String × Predicate)) (textual : Bool)
    (tests : ∀ entry ∈ named, ∃ test, entry.2 = Predicate.ofTest test) :
    (ofEntries (named.map fun (name, predicate) => ⟨name, predicate, textual⟩)).OnlyJudges := by
  intro entry member
  obtain ⟨own, inside, same⟩ := List.mem_map.mp (mem_of_entries member)
  obtain ⟨test, made⟩ := tests own inside
  rw [← same]
  change own.2.OnlyJudges
  rw [made]
  exact Predicate.of_test_only_judges test

theorem bundled_only_judges : bundled.OnlyJudges := by
  apply of_tests_only_judge
  repeat' refine List.forall_mem_cons.mpr ⟨⟨_, rfl⟩, ?_⟩
  exact fun _ member => absurd member List.not_mem_nil

theorem core_only_judges : core.OnlyJudges := by
  apply of_tests_only_judge
  repeat' refine List.forall_mem_cons.mpr ⟨⟨_, rfl⟩, ?_⟩
  exact fun _ member => absurd member List.not_mem_nil

theorem core_not_textual (entry : RegistryEntry) (member : entry ∈ core.entries) :
    entry.textual = false := by
  obtain ⟨own, _, same⟩ := List.mem_map.mp (mem_of_entries member)
  rw [← same]

theorem mem_of_find {registry : Registry} {name : String} {entry : RegistryEntry}
    (found : registry.find? name = some entry) : entry ∈ registry.entries := by
  obtain ⟨slot, own, same⟩ := Option.map_eq_some_iff.mp found
  exact same ▸ List.mem_map_of_mem (List.mem_of_find?_eq_some own)

theorem found_iff_named (registry : Registry) (name : String) :
    registry.find? name ≠ none ↔ name ∈ registry.names := by
  simp [find?, names]

/-- A known name belongs to the registry, or else to the core. -/
theorem resolve_some {registry : Registry} {name : String} {entry : RegistryEntry}
    (known : resolve? ⟨some registry, .core⟩ name = some entry) :
    registry.find? name = some entry ∨ entry ∈ core.entries := by
  rw [resolve?] at known
  simp only [Option.bind_some] at known
  cases own : registry.find? name with
  | some found =>
      rw [own] at known
      exact Or.inl known
  | none =>
      rw [own] at known
      exact Or.inr (mem_of_find known)

theorem resolve_only_judges {registry : Registry} (judges : registry.OnlyJudges) {name : String}
    {entry : RegistryEntry} (known : resolve? ⟨some registry, .core⟩ name = some entry) :
    entry.predicate.OnlyJudges := by
  rcases resolve_some known with own | inCore
  · exact judges entry (mem_of_find own)
  · exact core_only_judges entry inCore

end Registry

namespace Validator

/-- A validator comes from the entry of a known name, or is the author's own predicate under an
unknown one. -/
theorem resolve_origin {words : Vocabulary} {name : String} {given : Declaration}
    {validator : Validator} (resolved : resolve words name given = .ok validator) :
    validator.name = name ∧
      ((∃ entry, Registry.resolve? words name = some entry ∧
          validator.predicate = entry.predicate ∧ validator.textual = entry.textual) ∨
        (given = .callable validator.predicate ∧ validator.textual = false)) := by
  unfold resolve at resolved
  cases known : Registry.resolve? words name with
  | some entry =>
      simp only [known, Except.ok.injEq] at resolved
      subst resolved
      refine ⟨?_, Or.inl ⟨entry, rfl, ?_, ?_⟩⟩ <;> (unfold ofEntry; split <;> rfl)
  | none =>
      simp only [known] at resolved
      cases given with
      | callable predicate =>
          cases resolved
          exact ⟨rfl, Or.inr ⟨rfl, rfl⟩⟩
      | _ => cases resolved

/-- A violation that a validator did not get from its predicate is its own. -/
theorem judge_violation {validator : Validator} {field : String} {subject : Value}
    {answer : Answer} {violation : Violation} (own : ∀ found, answer ≠ .violation found)
    (judged : validator.judge field subject answer = .ok (some violation)) :
    ∃ cause, violation = validator.violation field subject cause := by
  cases answer with
  | verdict passes =>
      cases passes with
      | true => cases judged
      | false => exact ⟨none, (Option.some.inj (Except.ok.inj judged)).symm⟩
  | violation found => exact absurd rfl (own found)
  | returned failure => cases judged
  | broken cause =>
      rw [judge] at judged
      split at judged
      · exact ⟨some cause, (Option.some.inj (Except.ok.inj judged)).symm⟩
      · cases judged

theorem subject_of_plain {validator : Validator} (plain : validator.textual = false)
    (value : Value) : validator.subjectOf value = value := by
  rw [subjectOf, plain]
  rfl

theorem subject_of_textual {validator : Validator} (textual : validator.textual = true)
    (value : Value) : validator.subjectOf value = .text value.subject := by
  rw [subjectOf, textual]
  rfl

theorem run_violation {validator : Validator} {field : String} {value : Value}
    {violation : Violation} (judges : validator.predicate.OnlyJudges)
    (ran : (validator.run field value).outcome = .ok (some violation)) :
    violation.path = .text field ∧ violation.validator = .text validator.name ∧
      violation.value = validator.subjectOf value := by
  rw [run] at ran
  split at ran
  · obtain ⟨cause, made⟩ :=
      judge_violation (judges (validator.subjectOf value) validator.arguments) ran
    rw [made]
    exact ⟨rfl, rfl, rfl⟩
  · cases ran

end Validator

namespace CheckStep

theorem run_all_violation {field : String} {value : Value} {steps : List CheckStep}
    {violation : Violation} (ran : (runAll field value steps).outcome = .ok (some violation)) :
    ∃ step ∈ steps, (step.run field value).outcome = .ok (some violation) := by
  induction steps with
  | nil => cases ran
  | cons step rest induction =>
      rw [runAll, Run.bind_ok_iff] at ran
      obtain ⟨found, first, later⟩ := ran
      cases found with
      | some own =>
          have same : own = violation := Option.some.inj (Except.ok.inj later)
          exact ⟨step, List.mem_cons_self, same ▸ first⟩
      | none =>
          obtain ⟨other, inside, found⟩ := induction later
          exact ⟨other, List.mem_cons_of_mem step inside, found⟩

theorem mem_of_validation {words : Vocabulary} {validation : Validation}
    {steps : List CheckStep} (made : ofValidation words validation = .ok steps)
    {step : CheckStep} (member : step ∈ steps) :
    ∃ name given validator, (name, given) ∈ validation ∧
      Validator.resolve words name given = .ok validator ∧
      step = .predicateCall validator := by
  induction validation generalizing steps with
  | nil =>
      cases made
      cases member
  | cons entry rest induction =>
      obtain ⟨name, given⟩ := entry
      obtain ⟨validator, resolved, made⟩ := Run.except_bind_ok made
      obtain ⟨later, madeLater, made⟩ := Run.except_bind_ok made
      cases made
      rcases List.mem_cons.mp member with same | inside
      · exact ⟨name, given, validator, List.mem_cons_self, resolved, same⟩
      · obtain ⟨other, own, made, listed, rest⟩ := induction madeLater inside
        exact ⟨other, own, made, List.mem_cons_of_mem _ listed, rest⟩

/-- The steps of a rule are the type test, if a type is declared, and those of its validation. -/
theorem of_rule_steps (words : Vocabulary) (rule : Rule) :
    ofRule words rule = (ofValidation words (rule.validation.getD [])).map fun validators =>
      (rule.tag.map fun tag => typeTest (.text tag.name)).toList ++ validators := by
  rw [ofRule, ofParts]
  cases rule.tag with
  | none => rfl
  | some tag => rfl

theorem of_rule_made {words : Vocabulary} {rule : Rule} {steps : List CheckStep}
    (made : ofRule words rule = .ok steps) :
    ∃ validators, ofValidation words (rule.validation.getD []) = .ok validators ∧
      steps = (rule.tag.map fun tag => typeTest (.text tag.name)).toList ++ validators := by
  rw [of_rule_steps] at made
  cases resolved : ofValidation words (rule.validation.getD []) with
  | error fault =>
      rw [resolved] at made
      cases made
  | ok validators =>
      rw [resolved] at made
      exact ⟨validators, rfl, (Except.ok.inj made).symm⟩

theorem of_rule_error_iff {words : Vocabulary} {rule : Rule} {fault : Fault} :
    ofRule words rule = .error fault ↔
      ofValidation words (rule.validation.getD []) = .error fault := by
  rw [of_rule_steps]
  cases ofValidation words (rule.validation.getD []) <;> simp [Except.map]

theorem mem_of_rule {words : Vocabulary} {rule : Rule} {steps : List CheckStep}
    (made : ofRule words rule = .ok steps) {step : CheckStep} (member : step ∈ steps) :
    (∃ tag : TypeTag, step = .typeTest (.text tag.name)) ∨
      ∃ name given validator, (name, given) ∈ rule.validation.getD [] ∧
        Validator.resolve words name given = .ok validator ∧
        step = .predicateCall validator := by
  obtain ⟨validators, resolved, rfl⟩ := of_rule_made made
  rcases List.mem_append.mp member with test | call
  · obtain ⟨tag, _, rfl⟩ := Option.map_eq_some_iff.mp (Option.mem_toList.mp test)
    exact Or.inl ⟨tag, rfl⟩
  · exact Or.inr (mem_of_validation resolved call)

theorem test_type_violation {typeName : Value} {field : String} {value : Value}
    {violation : Violation} (tested : testType typeName field value = .ok (some violation)) :
    violation = .ofStep "type" field value [typeName] := by
  rw [testType] at tested
  cases admitted : TypeTag.test typeName value with
  | error fault =>
      rw [admitted] at tested
      cases tested
  | ok passes =>
      rw [admitted] at tested
      cases passes with
      | true => cases tested
      | false => exact (Option.some.inj (Except.ok.inj tested)).symm

end CheckStep

/-- The predicates that a validation gives on its own make no violations. -/
def Validation.OnlyJudges (validation : Validation) : Prop :=
  ∀ name predicate, (name, Datum.callable predicate) ∈ validation → predicate.OnlyJudges

/-- The violation holds the value, or the value's text where its validator is a predicate of the
registry that wants texts. -/
def Violation.Shows (registry : Registry) (value : Value) (violation : Violation) : Prop :=
  violation.value = value ∨
    ∃ name entry, violation.validator = .text name ∧ registry.find? name = some entry ∧
      entry.textual = true ∧ violation.value = .text value.subject

theorem Validator.run_shows {registry : Registry} {name : String} {given : Declaration}
    {validator : Validator} {field : String} {value : Value} {violation : Violation}
    (known : registry.OnlyJudges)
    (own : ∀ predicate, given = .callable predicate → predicate.OnlyJudges)
    (resolved : Validator.resolve ⟨some registry, .core⟩ name given = .ok validator)
    (ran : (validator.run field value).outcome = .ok (some violation)) :
    violation.path = .text field ∧ violation.Shows registry value := by
  obtain ⟨called, origin⟩ := Validator.resolve_origin resolved
  rcases origin with ⟨entry, found, predicate, textual⟩ | ⟨callable, plain⟩
  · have judges : validator.predicate.OnlyJudges := by
      rw [predicate]
      exact Registry.resolve_only_judges known found
    obtain ⟨path, validatorName, shown⟩ := Validator.run_violation judges ran
    refine ⟨path, ?_⟩
    cases wantsText : entry.textual with
    | false =>
        left
        rw [shown, Validator.subject_of_plain (textual.trans wantsText)]
    | true =>
        right
        rw [Validator.subject_of_textual (textual.trans wantsText)] at shown
        rw [called] at validatorName
        refine ⟨name, entry, validatorName, ?_, wantsText, shown⟩
        rcases Registry.resolve_some found with registered | inCore
        · exact registered
        · -- The core's predicates never want texts.
          rw [Registry.core_not_textual entry inCore] at wantsText
          cases wantsText
  · have judges := own validator.predicate callable
    obtain ⟨path, _, shown⟩ := Validator.run_violation judges ran
    refine ⟨path, Or.inl ?_⟩
    rw [shown, Validator.subject_of_plain plain]

theorem Rule.check_violation {registry : Registry} {rule : Rule} {field : String} {value : Value}
    {violation : Violation} (known : registry.OnlyJudges)
    (own : Validation.OnlyJudges (rule.validation.getD []))
    (ran : (rule.check ⟨some registry, .core⟩ field value).outcome = .ok (some violation)) :
    violation.path = .text field ∧ violation.Shows registry value := by
  rw [Rule.check, Run.bind_ok_iff] at ran
  obtain ⟨steps, made, ran⟩ := ran
  obtain ⟨step, member, ran⟩ := CheckStep.run_all_violation ran
  rcases CheckStep.mem_of_rule made member with
    ⟨tag, same⟩ | ⟨name, given, validator, listed, resolved, same⟩
  · subst same
    rw [CheckStep.test_type_violation ran]
    exact ⟨rfl, Or.inl rfl⟩
  · subst same
    refine Validator.run_shows known ?_ resolved ran
    intro predicate callable
    exact own name predicate (callable ▸ listed)

end DocumentRules
