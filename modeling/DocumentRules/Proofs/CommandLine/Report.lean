import DocumentRules.Proofs.Check.Documents
import DocumentRules.Proofs.CommandLine.Status
import DocumentRules.Proofs.Json.RoundTrip

/-!
The report that the program writes as JSON. Its text is read as the list of the reports of the
violations that the check gives, one for each and in their order.
-/

set_option autoImplicit false

namespace DocumentRules.CommandLine

section Run

variable (disk : Disk) (taken : Arguments) (input : List UInt8)

theorem invalid_finish {result : Result}
    (concluded : conclude taken (Finish.ofArguments disk taken input) = .ok result)
    (invalid : result.status = 1) :
    ∃ found, (Finish.ofArguments disk taken input).outcome = .ok found ∧
      result.output = report taken.format found := by
  unfold conclude at concluded
  dsimp only at concluded
  split at concluded
  · cases concluded
    cases invalid
  · rename_i found _ ends
    cases concluded
    exact ⟨found, ends, rfl⟩
  · split at concluded
    · cases concluded
      cases invalid
    · cases concluded

theorem reported_documents {contract : Contract} {written : String} {value : Value}
    {found : List Violation} (loaded : Contract.load disk taken.schema none = .ok contract)
    (read : (Source.text written).read disk = .ok value)
    (checked : (contract.check value).outcome = .ok found) :
    (Datum.list (found.map Violation.report)).IsDocument := by
  obtain ⟨schema, registry⟩ := Contract.of_load loaded
  rw [Contract.check, registry] at checked
  have documents := check_documents schema (Source.read_is_document read) checked
  rw [Datum.list_document_iff, List.forall_mem_map]
  exact fun violation member => Violation.report_document (documents violation member)

/-- Where a run with accepted arguments that ask for JSON ends with the status for violations, its
output is read as the list of the reports of the violations that checking the input gives. These
reports are documents, so nothing in them is written that can be called. -/
theorem json_report_read_back {arguments : List String} {result : Result}
    (accepted : readArguments disk arguments = .ok taken) (json : taken.format = .json)
    (ran : run disk arguments input = .ok result) (invalid : result.status = 1) :
    ∃ contract written value found, Contract.load disk taken.schema none = .ok contract ∧
      Finish.givenText taken input = .ok written ∧
      (Source.text written).read disk = .ok value ∧
      (contract.check value).outcome = .ok found ∧
      (Datum.list (found.map Violation.report)).IsDocument ∧
      Json.read result.output = .ok (Datum.list (found.map Violation.report)) := by
  rw [run, accepted] at ran
  obtain ⟨found, ends, output⟩ := invalid_finish disk taken input ran invalid
  obtain ⟨contract, written, value, loaded, given, read, checked⟩ :=
    (finds_iff disk taken input found).mp ends
  have document := reported_documents disk taken loaded read checked
  refine ⟨contract, written, value, found, loaded, given, read, checked, document, ?_⟩
  rw [output, json, report]
  exact Json.read_write Json.indented document (List.forall_mem_singleton.mpr rfl)

end Run

theorem drawer_report_read_back :
    (drawerTaken "user_payload.json").format = .json ∧
      ∃ result, run drawer (drawerArguments "user_payload.json") [] = .ok result ∧
        result.status = 1 ∧
        ∃ contract written value found,
          Contract.load drawer "user_payload.json" none = .ok contract ∧
          Finish.givenText (drawerTaken "user_payload.json") [] = .ok written ∧
          (Source.text written).read drawer = .ok value ∧
          (contract.check value).outcome = .ok found ∧
          Json.read result.output = .ok (Datum.list (found.map Violation.report)) := by
  obtain ⟨result, ran, invalid⟩ := user_contract_run_invalid
  obtain ⟨contract, written, value, found, loaded, given, read, checked, _, back⟩ :=
    json_report_read_back drawer _ [] drawer_accepts.1 rfl ran invalid
  exact ⟨rfl, result, ran, invalid, contract, written, value, found, loaded, given, read,
    checked, back⟩

end DocumentRules.CommandLine
