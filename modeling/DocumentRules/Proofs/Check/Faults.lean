import DocumentRules.Proofs.Rule.Sites
import DocumentRules.Proofs.Validator.Declared
import DocumentRules.Proofs.Validator.Order

/-!
The faults in which a check can end whose schema is a document. The schema may be at fault,
or one of its types may name nothing; where a predicate breaks down, that is the fault, and
no predicate that a document can name reports a failure of its own.
-/

set_option autoImplicit false

namespace DocumentRules

inductive IsCheckFault : Fault → Prop where
  | schema (own : SchemaFault) : IsCheckFault (.schema own)
  | unhashableType : IsCheckFault .unhashableType
  | breakdown {cause : Breakdown} (plain : cause.IsPlain) : IsCheckFault (.breakdown cause)

namespace Validator

/-- A validator of a document comes to what a test says, or breaks down without being asked. -/
theorem outcome_of_declared {validator : Validator} (declared : validator.IsDeclared)
    (field : String) (value : Value) :
    ∃ verdict : Except Breakdown Bool,
      (validator.run field value).outcome =
        validator.judge field (validator.subjectOf value) (Answer.ofTest verdict) ∧
      ∀ cause, verdict = .error cause → cause.IsPlain := by
  obtain ⟨test, same, plain⟩ := declared.settled
  rw [run_outcome, answerFor]
  cases validator.canAsk value with
  | true =>
      refine ⟨test (validator.subjectOf value) validator.arguments, ?_, plain _ _⟩
      rw [same]
      rfl
  | false =>
      refine ⟨.error .tooManyDigits, ?_, ?_⟩
      · rw [Answer.ofTest, judge, if_neg declared.known]
        rfl
      · rintro cause ⟨⟩
        trivial

theorem run_fault {validator : Validator} {field : String} {value : Value} {fault : Fault}
    (declared : validator.IsDeclared)
    (ran : (validator.run field value).outcome = .error fault) : IsCheckFault fault := by
  obtain ⟨verdict, outcome, plain⟩ := outcome_of_declared declared field value
  rw [outcome] at ran
  cases verdict with
  | ok passes => cases passes <;> cases ran
  | error cause =>
      rw [Answer.ofTest, judge] at ran
      split at ran
      · cases ran
      · cases ran
        exact .breakdown (plain cause rfl)

end Validator

namespace CheckStep

theorem of_rule_fault {words : Vocabulary} {rule : Rule} {fault : Fault}
    (made : ofRule words rule = .error fault) : IsCheckFault fault := by
  have unresolved := of_rule_error_iff.mp made
  obtain ⟨_, _, _, _, _, _, rfl⟩ := (Validation.steps_error_iff fault).mp unresolved
  exact .schema _

theorem run_fault {step : CheckStep} (declared : step.IsDeclared) {field : String} {value : Value}
    {fault : Fault} (ran : (step.run field value).outcome = .error fault) :
    IsCheckFault fault := by
  cases step with
  | typeTest typeName =>
      obtain ⟨tag, rfl⟩ := declared
      cases (test_named_type tag field value).symm.trans ran
  | predicateCall validator => exact Validator.run_fault declared ran

theorem run_all_fault {steps : List CheckStep} (declared : ∀ step ∈ steps, step.IsDeclared)
    {field : String} {value : Value} {fault : Fault}
    (ran : (runAll field value steps).outcome = .error fault) : IsCheckFault fault := by
  induction steps with
  | nil => cases ran
  | cons step rest induction =>
      rcases Run.bind_error ran with own | ⟨found, _, later⟩
      · exact run_fault (declared step List.mem_cons_self) own
      · cases found with
        | some violation => cases later
        | none =>
            exact induction (fun other member => declared other (List.mem_cons_of_mem step member))
              later

end CheckStep

theorem LocatedCheck.found_fault {check : LocatedCheck}
    (documents : Schema.ValidatedByDocuments check.rule.validation) {fault : Fault}
    (ran : (check.found bundledOnly).outcome = .error fault) : IsCheckFault fault := by
  rcases Run.bind_error ran with ran | ⟨violation, _, impossible⟩
  · rw [LocatedCheck.outcome] at ran
    split at ran
    · cases ran
    · rw [Rule.check] at ran
      rcases Run.bind_error ran with unmade | ⟨steps, made, ran⟩
      · exact CheckStep.of_rule_fault unmade
      · exact CheckStep.run_all_fault (CheckStep.of_rule_declared documents made) ran
  · cases impossible

theorem table_for_fault {value : Value} {given : Declaration} {fault : Fault}
    (made : (SchemaSource.declared given).tableFor value = .error fault) : IsCheckFault fault := by
  rw [SchemaSource.tableFor] at made
  split at made
  · cases made
    exact .schema _
  · split at made
    · cases made
      exact .schema _
    · rw [SchemaSource.table] at made
      cases read : (SchemaSource.declared given).read with
      | ok schema =>
          rw [read] at made
          cases made
      | error own =>
          rw [read] at made
          cases made
          rcases Schema.read_fault read with ⟨schema, rfl⟩ | rfl
          · exact .schema schema
          · exact .unhashableType

/-- Where the schema is a document, a check ends in no other fault. -/
theorem check_fault {value : Value} {given : Declaration} (document : given.IsDocument)
    {fault : Fault} (checked : (check value (.declared given) none []).outcome = .error fault) :
    IsCheckFault fault := by
  rcases Run.bind_error checked with untabled | ⟨entries, tabled, walked⟩
  · exact table_for_fault untabled
  · obtain ⟨container, schema, read, _⟩ := SchemaSource.read_of_table_for tabled
    rw [check_of_read container read] at checked
    obtain ⟨located, listed, ran⟩ := Run.flat_map_error checked
    obtain ⟨entry, inTable, _, _, rfl⟩ := TableEntry.mem_running.mp listed
    have documents := Schema.table_documents (Schema.read_documents document read)
    exact LocatedCheck.found_fault (documents entry inTable) ran

end DocumentRules
