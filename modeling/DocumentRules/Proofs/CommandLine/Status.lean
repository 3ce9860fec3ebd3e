import DocumentRules.Proofs.Bundle.UserPayload
import DocumentRules.Proofs.Check.Faults
import DocumentRules.Proofs.Document.Loading

/-!
The status in which the program ends. The three statuses are the documented ones, for a
value without violations, for one with some, and for everything else, unless the run ends in
a fault that the program does not report. Those faults are listed: three of the search for the
contract, two of the search for the input, a type that names nothing, and the breakdowns of
predicates of all kinds but one. Runs are left out that meet what is not followed here.
-/

set_option autoImplicit false

namespace DocumentRules

/-- The program reports the breakdowns that go by one name. -/
theorem Breakdown.IsPlain.reported_iff {cause : Breakdown} (plain : cause.IsPlain) :
    CommandLine.isReported (.breakdown cause) = true ↔ cause.name = "ValueError" := by
  cases cause with
  | failed failure => exact False.elim plain
  | badPattern error => cases error <;> simp [CommandLine.isReported, Breakdown.name]
  | _ => simp [CommandLine.isReported, Breakdown.name]

namespace CommandLine

section Run

variable (disk : Disk) (taken : Arguments) (input : List UInt8)

/-- The contract is loaded, the input is read, and checking it comes to these violations. -/
def Finds (found : List Violation) : Prop :=
  ∃ contract written value, Contract.load disk taken.schema none = .ok contract ∧
    Finish.givenText taken input = .ok written ∧
    (Source.text written).read disk = .ok value ∧
    (contract.check value).outcome = .ok found

inductive HasStatus : Nat → Prop where
  | valid (nothing : Finds disk taken input []) : HasStatus 0
  | invalid {found : List Violation} (finds : Finds disk taken input found)
      (some : found ≠ []) : HasStatus 1
  | fault (nowhere : ∀ found, ¬Finds disk taken input found) : HasStatus 2

/-- The faults that the program does not report. -/
inductive Escapes : Fault → Prop where
  | contractBelowFile (search : locateDocument disk taken.schema = .error .belowFile) :
      Escapes (.source .belowFile)
  | contractTooLong (search : locateDocument disk taken.schema = .error .nameTooLong) :
      Escapes (.source .nameTooLong)
  | contractDenied (search : locateDocument disk taken.schema = .error .denied) :
      Escapes (.source .denied)
  | inputRefused {contract : Contract} {written : String} {fault : SourceFault}
      (loaded : Contract.load disk taken.schema none = .ok contract)
      (given : Finish.givenText taken input = .ok written)
      (refuses : disk.Refuses (Location.ofText written) fault) : Escapes (.source fault)
  | unhashableType {contract : Contract} {written : String} {value : Value}
      (loaded : Contract.load disk taken.schema none = .ok contract)
      (given : Finish.givenText taken input = .ok written)
      (read : (Source.text written).read disk = .ok value)
      (checked : (contract.check value).outcome = .error .unhashableType) :
      Escapes .unhashableType
  | breakdown {contract : Contract} {written : String} {value : Value} {cause : Breakdown}
      (loaded : Contract.load disk taken.schema none = .ok contract)
      (given : Finish.givenText taken input = .ok written)
      (read : (Source.text written).read disk = .ok value)
      (checked : (contract.check value).outcome = .error (.breakdown cause))
      (other : cause.name ≠ "ValueError") : Escapes (.breakdown cause)

/-- What the run reads is not nested too deep, and it does not end at what is not followed. -/
structure IsFollowed : Prop where
  contract : ∀ found text, locateDocument disk taken.schema = .ok found →
    Text.fileText found.bytes = .ok text → Json.nesting text ≤ Json.deepest
  file : ∀ written bytes text, Finish.givenText taken input = .ok written →
    disk.lookup (Location.ofText written) = .file bytes → Text.fileText bytes = .ok text →
    Json.nesting text ≤ Json.deepest
  literal : ∀ written, Finish.givenText taken input = .ok written →
    (disk.lookup (Location.ofText written)).isFile = false →
    Json.nesting written ≤ Json.deepest
  outcome : ∀ fault, (Finish.ofArguments disk taken input).outcome = .error fault →
    fault.isUnfollowed = false

/-! ## How a run ends -/

theorem check_finish_outcome (log : List LogMessage) (contract : Contract) (value : Value) :
    (Finish.check log contract value).outcome = (contract.check value).outcome := by
  unfold Finish.check
  cases tabled : contract.source.tableFor value with
  | error fault =>
      have checked : (contract.check value).outcome = .error fault := by
        rw [Contract.check, DocumentRules.check, tabled]
        rfl
      exact checked.symm
  | ok entries =>
      dsimp only
      cases (contract.check value).outcome <;> rfl

theorem finish_outcome :
    (Finish.ofArguments disk taken input).outcome =
      (Contract.load disk taken.schema none).bind fun contract =>
        match Finish.givenText taken input with
        | .error fault => .error (.source fault)
        | .ok written =>
            match (Source.text written).read disk with
            | .error fault => .error (.source fault)
            | .ok value => (contract.check value).outcome := by
  unfold Finish.ofArguments Contract.load loadDocument
  cases locateDocument disk taken.schema with
  | error fault => rfl
  | ok document =>
      dsimp only [Except.bind]
      cases (document.read : Except SourceFault Declaration) with
      | error fault => rfl
      | ok contents =>
          dsimp only
          cases Contract.ofDocument taken.schema contents none with
          | error fault => rfl
          | ok contract =>
              dsimp only
              cases Finish.givenText taken input with
              | error fault => rfl
              | ok written =>
                  dsimp only
                  unfold Finish.read
                  cases (Source.text written).read disk with
                  | error fault => rfl
                  | ok value => exact check_finish_outcome _ contract value

theorem finds_iff (found : List Violation) :
    (Finish.ofArguments disk taken input).outcome = .ok found ↔ Finds disk taken input found := by
  rw [finish_outcome, Finds]
  cases Contract.load disk taken.schema none with
  | error fault => simp [Except.bind]
  | ok contract =>
      cases Finish.givenText taken input with
      | error fault => simp [Except.bind]
      | ok written =>
          cases read : (Source.text written).read disk with
          | error fault => simp [Except.bind, read]
          | ok value => simp [Except.bind, read]

theorem load_fault_of_search {fault : SourceFault}
    (search : locateDocument disk taken.schema = .error fault) :
    Contract.load disk taken.schema none = .error (.source fault) := by
  have loading : (loadDocument disk taken.schema : Except SourceFault Declaration) =
      .error fault := congrArg (fun found => Except.bind found FoundDocument.read) search
  unfold Contract.load
  rw [loading]

theorem load_unreported {fault : Fault}
    (loading : Contract.load disk taken.schema none = .error fault)
    (followed : fault.isUnfollowed = false) (unreported : isReported fault = false) :
    Escapes disk taken input fault := by
  unfold Contract.load at loading
  split at loading
  · rw [Contract.of_document_reported loading] at unreported
    cases unreported
  · rename_i own read
    cases loading
    rcases Run.except_bind_error read with search | ⟨found, _, failed⟩
    · rcases locate_fault search with rfl | rfl | rfl | reported
      · exact .contractBelowFile search
      · exact .contractTooLong search
      · exact .contractDenied search
      · rw [reported] at unreported
        cases unreported
    · rw [FoundDocument.read_reported failed followed] at unreported
      cases unreported

theorem given_reported {fault : SourceFault}
    (given : Finish.givenText taken input = .error fault) : isReported (.source fault) = true := by
  unfold Finish.givenText at given
  split at given
  · cases given
  · cases decoded : Text.streamText input with
    | error refusal =>
        rw [decoded] at given
        cases given
        rfl
    | ok text =>
        rw [decoded] at given
        cases given

theorem read_unreported {contract : Contract} {written : String} {fault : SourceFault}
    (loaded : Contract.load disk taken.schema none = .ok contract)
    (given : Finish.givenText taken input = .ok written)
    (reading : (Source.text written).read disk = .error fault)
    (followed : Fault.isUnfollowed (.source fault) = false)
    (unreported : isReported (.source fault) = false) :
    Escapes disk taken input (.source fault) := by
  rw [Source.read] at reading
  rcases Run.except_bind_error reading with looked | ⟨file, _, failed⟩
  · exact .inputRefused loaded given
      ((disk.refuses_iff _ fault).mpr (refusal_of_file_at looked))
  · have reported : isReported (.source fault) = true := by
      cases file with
      | some bytes => exact read_bytes_reported failed followed
      | none => exact read_document_reported failed followed
    rw [reported] at unreported
    cases unreported

theorem check_unreported {contract : Contract} {written : String} {value : Value} {fault : Fault}
    (loaded : Contract.load disk taken.schema none = .ok contract)
    (given : Finish.givenText taken input = .ok written)
    (read : (Source.text written).read disk = .ok value)
    (checked : (contract.check value).outcome = .error fault)
    (followed : fault.isUnfollowed = false) (unreported : isReported fault = false) :
    Escapes disk taken input fault := by
  obtain ⟨document, registry⟩ := Contract.of_load loaded
  have own := checked
  rw [Contract.check, registry] at own
  cases check_fault document own with
  | schema schema => cases unreported
  | unhashableType => exact .unhashableType loaded given read checked
  | breakdown plain =>
      refine .breakdown loaded given read checked fun value => ?_
      rw [plain.reported_iff.mpr value] at unreported
      cases unreported

theorem outcome_of_escape {fault : Fault} (escapes : Escapes disk taken input fault) :
    (Finish.ofArguments disk taken input).outcome = .error fault ∧ isReported fault = false := by
  rw [finish_outcome]
  cases escapes with
  | contractBelowFile search | contractTooLong search | contractDenied search =>
      rw [load_fault_of_search disk taken search]
      exact ⟨rfl, rfl⟩
  | inputRefused loaded given refuses =>
      rename_i contract written fault
      have read : (Source.text written).read disk = .error fault := by
        rw [Source.read, file_at_refused ((disk.refuses_iff _ fault).mp refuses)]
        rfl
      rw [loaded, Except.bind, given]
      dsimp only
      rw [read]
      exact ⟨rfl, by cases refuses <;> rfl⟩
  | unhashableType loaded given read checked =>
      rw [loaded, Except.bind, given]
      dsimp only
      rw [read]
      exact ⟨checked, rfl⟩
  | breakdown loaded given read checked other =>
      rw [loaded, Except.bind, given]
      dsimp only
      rw [read]
      refine ⟨checked, ?_⟩
      obtain ⟨document, registry⟩ := Contract.of_load loaded
      rw [Contract.check, registry] at checked
      cases check_fault document checked with
      | breakdown plain =>
          rw [← Bool.not_eq_true, plain.reported_iff]
          exact other

theorem escape_of_outcome {fault : Fault}
    (ends : (Finish.ofArguments disk taken input).outcome = .error fault)
    (followed : fault.isUnfollowed = false) (unreported : isReported fault = false) :
    Escapes disk taken input fault := by
  rw [finish_outcome] at ends
  cases loading : Contract.load disk taken.schema none with
  | error own =>
      rw [loading] at ends
      cases ends
      exact load_unreported disk taken input loading followed unreported
  | ok contract =>
      rw [loading, Except.bind] at ends
      cases given : Finish.givenText taken input with
      | error own =>
          rw [given] at ends
          cases ends
          rw [given_reported taken input given] at unreported
          cases unreported
      | ok written =>
          rw [given] at ends
          dsimp only at ends
          cases reading : (Source.text written).read disk with
          | error own =>
              rw [reading] at ends
              cases ends
              exact read_unreported disk taken input loading given reading followed unreported
          | ok value =>
              rw [reading] at ends
              exact check_unreported disk taken input loading given reading ends followed
                unreported

/-- What escapes is the fault that a run comes to, where it is not reported. -/
theorem escapes_iff (followed : IsFollowed disk taken input) (fault : Fault) :
    Escapes disk taken input fault ↔
      (Finish.ofArguments disk taken input).outcome = .error fault ∧
        isReported fault = false := by
  refine ⟨outcome_of_escape disk taken input, ?_⟩
  rintro ⟨ends, unreported⟩
  exact escape_of_outcome disk taken input ends (followed.outcome fault ends) unreported

theorem status_unique {status other : Nat} (one : HasStatus disk taken input status)
    (another : HasStatus disk taken input other) : status = other := by
  have same {found more : List Violation} (finds : Finds disk taken input found)
      (again : Finds disk taken input more) : found = more := by
    rw [← finds_iff] at finds again
    exact Except.ok.inj (finds.symm.trans again)
  cases one with
  | valid nothing =>
      cases another with
      | valid _ => rfl
      | invalid finds some => exact absurd (same finds nothing) some
      | fault nowhere => exact absurd nothing (nowhere [])
  | invalid finds some =>
      cases another with
      | valid nothing => exact absurd (same finds nothing) some
      | invalid _ _ => rfl
      | fault nowhere => exact absurd finds (nowhere _)
  | fault nowhere =>
      cases another with
      | valid nothing => exact absurd nothing (nowhere [])
      | invalid finds _ => exact absurd finds (nowhere _)
      | fault _ => rfl

theorem conclude_status {result : Result}
    (concluded : conclude taken (Finish.ofArguments disk taken input) = .ok result) :
    HasStatus disk taken input result.status := by
  unfold conclude at concluded
  dsimp only at concluded
  split at concluded
  · rename_i ends
    cases concluded
    exact .valid ((finds_iff disk taken input []).mp ends)
  · rename_i found some ends
    cases concluded
    exact .invalid ((finds_iff disk taken input found).mp ends) some
  · rename_i fault ends
    split at concluded
    · cases concluded
      refine .fault fun found finds => ?_
      rw [← finds_iff, ends] at finds
      cases finds
    · cases concluded

theorem conclude_fault (followed : IsFollowed disk taken input) (fault : Fault) :
    conclude taken (Finish.ofArguments disk taken input) = .error fault ↔
      Escapes disk taken input fault := by
  rw [escapes_iff disk taken input followed]
  unfold conclude
  dsimp only
  split
  · rename_i ends
    simp [ends]
  · rename_i found some ends
    simp [ends]
  · rename_i own ends
    rw [ends, Except.error.injEq]
    split
    · rename_i reported
      refine iff_of_false (fun impossible => by cases impossible) ?_
      rintro ⟨rfl, unreported⟩
      rw [reported] at unreported
      cases unreported
    · rename_i unreported
      rw [Except.error.injEq]
      constructor
      · rintro rfl
        exact ⟨rfl, Bool.not_eq_true _ ▸ unreported⟩
      · exact And.left

theorem conclude_status_iff (followed : IsFollowed disk taken input) (status : Nat) :
    (∃ result, conclude taken (Finish.ofArguments disk taken input) = .ok result ∧
        result.status = status) ↔
      HasStatus disk taken input status ∧ ∀ fault, ¬Escapes disk taken input fault := by
  constructor
  · rintro ⟨result, concluded, rfl⟩
    refine ⟨conclude_status disk taken input concluded, ?_⟩
    intro fault escapes
    rw [← conclude_fault disk taken input followed, concluded] at escapes
    cases escapes
  · rintro ⟨has, contained⟩
    cases concluded : conclude taken (Finish.ofArguments disk taken input) with
    | error fault =>
        exact absurd ((conclude_fault disk taken input followed fault).mp concluded)
          (contained fault)
    | ok result =>
        exact ⟨result, rfl,
          status_unique disk taken input (conclude_status disk taken input concluded) has⟩

/-- A run with accepted arguments comes to what its finish is concluded with. -/
theorem run_accepted {arguments : List String}
    (accepted : readArguments disk arguments = .ok taken) :
    run disk arguments input = conclude taken (Finish.ofArguments disk taken input) := by
  rw [run, accepted]

end Run

/-- A contract in which a type is given as a list. -/
def listedType : String :=
  "\x7b\"title\":1,\"description\":1,\"version\":1,\"schema\":\x7b\"a\":\x7b\"type\":[]\x7d\x7d\x7d"

/-- A directory with that contract in it, beside which the bundled documents are installed. -/
def drawer : Disk :=
  Bundle.install ⟨["drawer"], [(["drawer", "rules.json"], .file (Bundle.plainBytes listedType))]⟩
    ["library"]

/-- An empty mapping is checked against a contract. -/
def drawerArguments (schema : String) : List String := ["--schema", schema, "\x7b\x7d"]

def drawerTaken (schema : String) : Arguments := ⟨schema, some "\x7b\x7d", .json, .warning⟩

theorem drawer_accepts :
    readArguments drawer (drawerArguments "user_payload.json") =
        .ok (drawerTaken "user_payload.json") ∧
      readArguments drawer (drawerArguments "rules.json") = .ok (drawerTaken "rules.json") :=
  ⟨rfl, rfl⟩

theorem drawer_contract_found : Bundle.IsFound drawer := by
  have missing : drawer.lookup (Location.ofText "user_payload.json") = .missing := by
    rw [Bundle.location_of_contract, Files.lookup_walk _ (by decide +kernel) (by decide +kernel)]
    rfl
  refine ⟨by rw [missing]; rfl, ?_, Bundle.library_contract _ (by simp)⟩
  rw [← Files.lookup_barred_iff, missing]
  exact nofun

theorem drawer_input :
    Finish.givenText (drawerTaken "user_payload.json") [] = .ok "\x7b\x7d" ∧
      drawer.lookup (Location.ofText "\x7b\x7d") = .missing ∧
      (Source.text "\x7b\x7d").read drawer = .ok (.mapping []) :=
  ⟨rfl, rfl, rfl⟩

theorem drawer_finds :
    ∃ found, Finds drawer (drawerTaken "user_payload.json") [] found ∧ found ≠ [] := by
  obtain ⟨found, checked, some⟩ : ∃ found,
      (Bundle.userContract.check (.mapping [])).outcome = .ok found ∧ (!found.isEmpty) = true :=
    Run.ok_of_gives_such (by decide +kernel)
  refine ⟨found, ⟨_, _, _, drawer_contract_found.load_contract, drawer_input.1,
    drawer_input.2.2, checked⟩, ?_⟩
  rintro rfl
  cases some

theorem drawer_literal {schema : String}
    (contract : ∀ found text, locateDocument drawer schema = .ok found →
      Text.fileText found.bytes = .ok text → Json.nesting text ≤ Json.deepest)
    (outcome : ∀ fault, (Finish.ofArguments drawer (drawerTaken schema) []).outcome =
      .error fault → fault.isUnfollowed = false) : IsFollowed drawer (drawerTaken schema) [] where
  contract := contract
  file := by
    rintro written bytes text ⟨⟩ there
    rw [drawer_input.2.1] at there
    cases there
  literal := by
    rintro written ⟨⟩ _
    decide
  outcome := outcome

theorem user_contract_run_followed :
    IsFollowed drawer (drawerTaken "user_payload.json") [] := by
  apply drawer_literal
  · intro found text located decoded
    rw [drawer_contract_found.locate] at located
    cases located
    exact (contract_followed (κ := Unit) _ text decoded).1
  · intro fault ends
    obtain ⟨found, finds, _⟩ := drawer_finds
    rw [(finds_iff drawer _ [] found).mpr finds] at ends
    cases ends

/-- The username is missing, and nothing escapes. -/
theorem user_contract_has_status :
    HasStatus drawer (drawerTaken "user_payload.json") [] 1 ∧
      ∀ fault, ¬Escapes drawer (drawerTaken "user_payload.json") [] fault := by
  obtain ⟨found, finds, some⟩ := drawer_finds
  refine ⟨.invalid finds some, ?_⟩
  intro fault escapes
  have ends := (outcome_of_escape drawer _ [] escapes).1
  rw [(finds_iff drawer _ [] found).mpr finds] at ends
  cases ends

theorem user_contract_run_invalid :
    ∃ result, run drawer (drawerArguments "user_payload.json") [] = .ok result ∧
      result.status = 1 := by
  rw [run_accepted drawer _ [] drawer_accepts.1,
    conclude_status_iff drawer _ [] user_contract_run_followed]
  exact user_contract_has_status

end CommandLine

end DocumentRules
