import DocumentRules.Proofs.Bundle.Usernames
import DocumentRules.Proofs.Workspace.Agreement

/-!
A check with a contract is a check with what is left of the contract's schema, with the
registry that its history makes and with the core that the history of the core makes. What
is loaded does not depend on what was loaded before.
-/

set_option autoImplicit false

namespace DocumentRules

namespace Contract

theorem make_registry (title description version : Value) (schema : Declaration)
    (registry : Option Registry) : make title description version schema registry =
      (make title description version schema none).map fun contract =>
        { contract with registry := registry } := by
  cases schema <;> rfl

theorem load_registry (disk : Disk) (path : String) (registry : Option Registry) :
    load disk path registry = (load disk path none).map fun contract =>
      { contract with registry := registry } := by
  unfold load
  cases loadDocument disk path with
  | error fault => rfl
  | ok document =>
      change ofDocument path document registry = (ofDocument path document none).map _
      unfold ofDocument
      split
      · exact make_registry _ _ _ _ registry
      · rfl

end Contract

namespace Workspace

variable {workspace : Workspace} {chronicle : Chronicle}

/-- What each contract checks with: what is left of its schema, the registry that its history makes,
or the bundled one if it was made without a registry, and the core as it is now. -/
structure ChecksAs (workspace : Workspace) (chronicle : Chronicle) : Prop where
  absent : ∀ name, (∀ shared, chronicle.find? name ≠ some (.contract shared)) →
    ∀ value, workspace.check name value = .error .unknownName
  unregistered : ∀ name shared, chronicle.find? name = some (.contract shared) →
    shared.registry = none → ∀ value, workspace.check name value =
      .ok (DocumentRules.check value (.declared (chronicle.remainder shared.schema))
        (some .bundled) [] chronicle.core)
  registered : ∀ name shared number, chronicle.find? name = some (.contract shared) →
    shared.registry = some number → ∃ history, chronicle.histories[number]? = some history ∧
      ∀ value, workspace.check name value =
        .ok (DocumentRules.check value (.declared (chronicle.remainder shared.schema))
          (some (.ofEntries history)) [] chronicle.core)

/-- A datum shares no mapping that has a key with anything that is kept. -/
def IsApart (workspace : Workspace) (live : LiveDatum) : Prop :=
  ∀ own ∈ workspace.kept, ∀ slot ∈ own.2.slots, slot ∉ live.slots

/-- What is loaded under a path is what stands there, and is new. -/
structure LoadsAfresh (disk : Disk) (workspace : Workspace) : Prop where
  document : ∀ path name,
    ((workspace.loadDocument disk path name).bind fun later =>
        (later.part name []).map LiveDatum.content) =
      (DocumentRules.loadDocument disk path).mapError .source
  documentApart : ∀ path name later, workspace.loadDocument disk path name = .ok later →
    ∃ live, later.find name = .ok (.datum live) ∧ workspace.IsApart live
  contract : ∀ path name given number registry, workspace.optionalRegistry given = .ok number →
    workspace.sharedRegistry number = .ok registry →
      ((workspace.loadContract disk path name given).bind fun later => later.contract name) =
        Contract.load disk path registry
  contractApart : ∀ path name given later, workspace.loadContract disk path name given = .ok later →
    ∃ shared, later.find name = .ok (.contract shared) ∧ workspace.IsApart shared.schema

theorem find_keep (workspace : Workspace) (name : String) (kept : Kept) :
    (workspace.keep name kept).find name = .ok kept := by
  simp [Workspace.find, Workspace.keep]

theorem contract_of_find {name : String} {shared : SharedContract}
    (found : workspace.find name = .ok (.contract shared)) :
    workspace.contract name = (workspace.sharedRegistry shared.registry).map fun registry =>
      ⟨shared.title, shared.description, shared.version, shared.schema.content, registry⟩ := by
  rw [contract, found]
  change (workspace.sharedRegistry shared.registry).bind _ = _
  cases workspace.sharedRegistry shared.registry <;> rfl

namespace Agrees

theorem shared_registry (agrees : workspace.Agrees chronicle) {number : Nat} {history : History}
    (there : chronicle.histories[number]? = some history) :
    workspace.sharedRegistry (some number) = .ok (some (.ofEntries history)) := by
  rw [sharedRegistry, RegistryFamily.member_of_follows agrees.registries, there]
  rfl

theorem contract (agrees : workspace.Agrees chronicle) {name : String} {shared : SharedContract}
    (found : chronicle.find? name = some (.contract shared)) :
    workspace.contract name = (workspace.sharedRegistry shared.registry).map fun registry =>
      ⟨shared.title, shared.description, shared.version, chronicle.remainder shared.schema,
        registry⟩ := by
  have own := agrees.find name
  rw [found] at own
  rw [contract_of_find own, ← Chronicle.remainder_eq]

theorem checks (agrees : workspace.Agrees chronicle) : workspace.ChecksAs chronicle where
  absent name other value := by
    have own := agrees.find name
    rw [check, Workspace.contract]
    cases kept : chronicle.find? name with
    | none =>
        rw [kept] at own
        rw [own]
        rfl
    | some there =>
        rw [kept] at own
        rw [own]
        cases there with
        | contract shared => exact absurd kept (other shared)
        | _ => rfl
  unregistered name shared found own value := by
    rw [check, agrees.contract found, own, agrees.core]
    rfl
  registered name shared number found own := by
    have inside := (agrees.knows found).registries number (by simp [Kept.registries, own])
    have there := List.getElem?_eq_getElem inside
    refine ⟨_, there, fun value => ?_⟩
    rw [check, agrees.contract found, own, agrees.shared_registry there, agrees.core]
    rfl

/-- What is marked now has numbers that nothing has yet. -/
theorem mark_apart (agrees : workspace.Agrees chronicle) (datum : Declaration) :
    workspace.IsApart (LiveDatum.mark workspace.next datum) := by
  intro own member slot there marked
  rw [agrees.kept] at member
  obtain ⟨came, kept, same⟩ := List.mem_map.mp member
  subst same
  have old := (agrees.known came kept).slots slot (Kept.slots_without there).1
  rw [agrees.next] at marked
  exact Nat.not_lt.mpr (LiveDatum.slots_mark marked).1 old

theorem loads_afresh (agrees : workspace.Agrees chronicle) (disk : Disk) :
    LoadsAfresh disk workspace where
  document path name := by
    rw [load_document_map]
    cases DocumentRules.loadDocument disk path with
    | error fault => rfl
    | ok document =>
        change ((workspace.keepFresh name document).part name []).map LiveDatum.content =
          .ok document
        rw [Workspace.part, Workspace.live, keepFresh, find_keep]
        exact congrArg Except.ok (LiveDatum.content_mark _ document)
  documentApart path name later taken := by
    rw [load_document_map] at taken
    obtain ⟨document, _, rfl⟩ := Run.except_map_ok taken
    exact ⟨_, find_keep _ _ _, agrees.mark_apart document⟩
  contract path name given number registry known shared := by
    have renewed := Contract.load_registry disk path registry
    rw [Workspace.loadContract, known, renewed]
    cases loaded : Contract.load disk path none with
    | error fault => rfl
    | ok contract =>
        change Workspace.contract (Workspace.keep _ name (.contract _)) name = _
        rw [contract_of_find (find_keep _ _ _)]
        change Except.map _ (workspace.sharedRegistry number) = _
        rw [shared, LiveDatum.content_mark]
        rfl
  contractApart path name given later taken := by
    obtain ⟨number, _, further⟩ := Run.except_bind_ok taken
    obtain ⟨contract, _, last⟩ := Run.except_bind_ok further
    cases last
    exact ⟨_, find_keep _ _ _, agrees.mark_apart contract.schema⟩

end Agrees

/-- In every run a check with a contract depends on nothing but what has happened to its own schema,
to its own registry and to the core, and what is loaded depends on nothing that has happened. -/
theorem contracts_check_current_contents (disk : Disk) (steps : List WorkspaceStep) :
    (run disk steps).ChecksAs (Chronicle.ofRun disk steps) ∧ LoadsAfresh disk (run disk steps) :=
  ⟨(Agrees.after_run disk steps).checks, (Agrees.after_run disk steps).loads_afresh disk⟩

def always : Predicate := .ofTest fun _ _ => .ok true

/-- A registry and the core are changed after contracts were made. Keys are taken out of the schema
of a document, out of a mapping inside of it, and out of that mapping's own part when it is in the
schema no more. -/
def sharedSteps : List WorkspaceStep :=
  [.loadDocument "user_payload.json" "document",
    .loadContract "user_payload.json" "loaded" none,
    .createBundledRegistry "names",
    .makeContract "registered" .null .null .null "document" [.key "schema"] (some "names"),
    .keepPart "document" [.key "schema", .key "settings"] "settings",
    .makeContract "settings alone" .null .null .null "settings" [.key "schema"] none,
    .register "names" "isEmail" (.callable always) false,
    .keepCore "core",
    .register "core" "isString" (.callable always) false,
    .removeKey "document" [.key "schema", .key "settings", .key "schema"] "locale",
    .removeKey "registered" [] "settings",
    .removeKey "settings" [.key "schema"] "optinNewsletter",
    .check "loaded" .null]

theorem shared_steps_recorded :
    Chronicle.ofRun Bundle.attic sharedSteps =
      (sharedSteps.drop 2).foldl (Chronicle.record Bundle.attic)
        (Chronicle.keep ⟨[.core], 47, [], [("document",
          .datum (LiveDatum.mark 0 Bundle.userPayload))]⟩ "loaded" (.contract
            ⟨.text "User Payload",
              .text "Sign-up payload: account fields, notification settings and role grants.",
              .text "1.0.0", LiveDatum.mark 24 Bundle.userPayloadSchema, none⟩)) := by
  rw [Chronicle.ofRun, sharedSteps, List.foldl_cons, List.foldl_cons, Chronicle.record,
    Chronicle.load_document_of_ok Bundle.attic_contract_found.load_document, Chronicle.record,
    Chronicle.load_contract_of_ok Bundle.attic_contract_found.load_contract]
  rfl

/-- Each contract has lost what was taken out of its own schema, also where a name led to it that
is in the schema no more, and the new core counts for all of them. What is loaded again has lost
nothing. -/
theorem shared_steps_checked :
    let workspace := run Bundle.attic sharedSteps
    ∃ (names : History) (core : Registry) (schema settings : List (String × Declaration)),
      core.find? "isString" = some ⟨"isString", always, false⟩ ∧
      names.latest? "isEmail" = some ⟨"isEmail", always, false⟩ ∧
      schema.map Prod.fst = ["$", "username", "email", "phone", "roles"] ∧ settings = [] ∧
      (∀ value, workspace.check "registered" value = .ok (DocumentRules.check value
        (.declared (.mapping schema)) (some (.ofEntries names)) [] core)) ∧
      (∀ value, workspace.check "settings alone" value = .ok (DocumentRules.check value
        (.declared (.mapping settings)) (some .bundled) [] core)) ∧
      (∀ value, workspace.check "loaded" value = .ok (DocumentRules.check value
        (.declared Bundle.userPayloadSchema) (some .bundled) [] core)) ∧
      ((workspace.loadDocument Bundle.attic "user_payload.json" "again").bind fun later =>
          (later.part "again" []).map LiveDatum.content) = .ok Bundle.userPayload ∧
      ((workspace.loadContract Bundle.attic "user_payload.json" "again" none).bind fun later =>
          later.contract "again") = .ok Bundle.userContract := by
  intro workspace
  obtain ⟨checks, loads⟩ := contracts_check_current_contents Bundle.attic sharedSteps
  rw [shared_steps_recorded] at checks
  obtain ⟨names, there, registered⟩ := checks.registered "registered" _ 1 rfl rfl
  have alone := checks.unregistered "settings alone" _ rfl rfl
  have loaded := checks.unregistered "loaded" _ rfl rfl
  cases there
  refine ⟨_, _, _, _, ?_, ?_, ?_, ?_, registered, alone, loaded, ?_, ?_⟩
  · rfl
  · rfl
  · rfl
  · rfl
  · rw [loads.document, Bundle.attic_contract_found.load_document]
    rfl
  · rw [loads.contract _ _ _ none none rfl rfl, Bundle.attic_contract_found.load_contract]

end Workspace

end DocumentRules
