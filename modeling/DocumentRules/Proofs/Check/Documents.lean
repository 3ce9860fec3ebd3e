import DocumentRules.Proofs.Check.Faults
import DocumentRules.Proofs.Path.Labels

/-!
Checks of which the schema and the value are documents. Every part of a violation is then a
document: what the check was made at, the value or its text, and the arguments that stand in
the schema. The report of such a violation is a document again, in which nothing can be
called.
-/

set_option autoImplicit false

namespace DocumentRules

namespace Datum

theorem IsDocument.step {value : Value} (document : value.IsDocument) (segment : Segment) :
    (value.step segment).IsDocument := by
  rcases step_inside value segment with none | ⟨items, rfl, inside⟩ | ⟨entries, name, rfl, inside⟩
  · rw [none]
    exact .null
  · exact (list_document_iff items).mp document _ inside
  · exact ((mapping_document_iff entries).mp document).2 _ inside

theorem IsDocument.follow {value : Value} (document : value.IsDocument) (path : Path) :
    (value.follow path).IsDocument := by
  induction path generalizing value with
  | nil => exact document
  | cons segment rest induction => exact induction (document.step segment)

end Datum

namespace Violation

/-- Every part of the violation is a document, and no breakdown caused it. -/
structure MadeOfDocuments (violation : Violation) : Prop where
  message : violation.message.IsDocument
  path : violation.path.IsDocument
  value : violation.value.IsDocument
  validator : violation.validator.IsDocument
  validatorName : violation.validatorName.IsDocument
  arguments : ∀ argument ∈ violation.arguments, argument.IsDocument
  cause : violation.cause = none

theorem of_step_documents {step field : String} {value : Value} {arguments : List Value}
    (shown : value.IsDocument) (each : ∀ argument ∈ arguments, argument.IsDocument) :
    (ofStep step field value arguments).MadeOfDocuments where
  message := .text _
  path := .text _
  value := shown
  validator := .text _
  validatorName := .text _
  arguments := each
  cause := rfl

theorem report_document {violation : Violation} (documents : violation.MadeOfDocuments) :
    violation.report.IsDocument := by
  rw [report, documents.cause, Datum.mapping_document_iff]
  constructor
  · change ["message", "path", "value", "validator_key", "validator_name", "validator_args"].Nodup
    decide
  simp only [List.append_nil, List.forall_mem_cons, List.not_mem_nil, false_implies, implies_true,
    and_true]
  exact ⟨documents.message, documents.path, documents.value, documents.validator,
    documents.validatorName, .list documents.arguments⟩

end Violation

namespace Validator

theorem run_documents {validator : Validator} (declared : validator.IsDeclared) {field : String}
    {value : Value} (document : value.IsDocument) {violation : Violation}
    (ran : (validator.run field value).outcome = .ok (some violation)) :
    violation.MadeOfDocuments := by
  have subject : (validator.subjectOf value).IsDocument := by
    rw [subjectOf]
    split
    · exact .text _
    · exact document
  obtain ⟨verdict, outcome, _⟩ := outcome_of_declared declared field value
  rw [outcome] at ran
  cases verdict with
  | ok passes =>
      cases passes <;> cases ran
      exact Violation.of_step_documents subject declared.arguments
  | error cause =>
      rw [Answer.ofTest, judge, if_neg declared.known] at ran
      cases ran

end Validator

namespace CheckStep

theorem run_documents {step : CheckStep} (declared : step.IsDeclared) {field : String}
    {value : Value} (document : value.IsDocument) {violation : Violation}
    (ran : (step.run field value).outcome = .ok (some violation)) :
    violation.MadeOfDocuments := by
  cases step with
  | typeTest typeName =>
      obtain ⟨tag, rfl⟩ := declared
      rw [test_type_violation ran]
      refine Violation.of_step_documents document ?_
      rw [List.forall_mem_singleton]
      exact .text _
  | predicateCall validator => exact Validator.run_documents declared document ran

end CheckStep

theorem LocatedCheck.found_documents {check : LocatedCheck}
    (declared : Schema.ValidatedByDocuments check.rule.validation)
    (document : check.target.IsDocument) {violation : Violation}
    (ran : (check.outcome bundledOnly).outcome = .ok (some violation)) :
    violation.MadeOfDocuments := by
  rw [LocatedCheck.outcome] at ran
  split at ran
  · split at ran <;> cases ran
    rw [missing_at_eq]
    exact Violation.of_step_documents .null fun _ none => absurd none List.not_mem_nil
  · rw [Rule.check, Run.bind_ok_iff] at ran
    obtain ⟨steps, made, ran⟩ := ran
    obtain ⟨step, member, ran⟩ := CheckStep.run_all_violation ran
    exact CheckStep.run_documents (CheckStep.of_rule_declared declared made step member) document
      ran

/-- Where schema and value are documents, so is every part of a violation. -/
theorem check_documents {value : Value} {given : Declaration} (schema : given.IsDocument)
    (document : value.IsDocument) {found : List Violation}
    (checked : (check value (.declared given) none []).outcome = .ok found) :
    ∀ violation ∈ found, violation.MadeOfDocuments := by
  obtain ⟨entries, tabled, _⟩ := (Run.bind_ok_iff _ _ _).mp checked
  obtain ⟨container, own, read, _⟩ := SchemaSource.read_of_table_for tabled
  rw [check_of_read container read] at checked
  intro violation member
  obtain ⟨located, listed, ran⟩ := LocatedCheck.mem_found checked member
  -- The target of a check is reached from the value, so it is a document as well.
  obtain ⟨entry, inTable, concrete, _, rfl⟩ := TableEntry.mem_running.mp listed
  have declared := Schema.table_documents (Schema.read_documents schema read)
  exact LocatedCheck.found_documents (declared entry inTable) (document.follow concrete) ran

end DocumentRules
