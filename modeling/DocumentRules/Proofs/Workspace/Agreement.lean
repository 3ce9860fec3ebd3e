import DocumentRules.Proofs.Workspace.Chronicle

/-!
A workspace is at every point of a run what the chronicle of the run says: each step does
what its record says, and so does the whole run.
-/

set_option autoImplicit false

namespace DocumentRules

namespace RegistryFamily

theorem apply_makes {family changed : RegistryFamily} {step : RegistryStep} (makes : step.Makes)
    (taken : family.apply step = .ok changed) :
    changed.members.length = family.members.length + 1 := by
  have added (registry : Registry) (same : family.add registry = changed) :
      changed.members.length = family.members.length + 1 := by
    rw [← same, add, List.length_append, List.length_singleton]
  cases step with
  | create => exact added _ (Except.ok.inj taken)
  | createBundled => exact added _ (Except.ok.inj taken)
  | copy source =>
      obtain ⟨registry, _, rest⟩ := Run.except_bind_ok taken
      exact added _ (Except.ok.inj rest)
  | gather picks =>
      obtain ⟨entries, _, rest⟩ := Run.except_bind_ok taken
      exact added _ (Except.ok.inj rest)
  | register target name given textual => exact makes.elim

end RegistryFamily

namespace Workspace

theorem load_document_map (workspace : Workspace) (disk : Disk) (path name : String) :
    workspace.loadDocument disk path name =
      ((DocumentRules.loadDocument disk path).mapError .source).map fun document =>
        workspace.keepFresh name document := by
  delta Workspace.loadDocument
  cases DocumentRules.loadDocument disk path <;> rfl

/-- The workspace is what the chronicle makes of it. -/
structure Agrees (workspace : Workspace) (chronicle : Chronicle) : Prop where
  registries : workspace.family.Follows chronicle.histories
  first : 0 < chronicle.histories.length
  next : workspace.next = chronicle.next
  kept : workspace.kept = chronicle.kept.map fun own => (own.1, own.2.without chronicle.removed)
  known : ∀ own ∈ chronicle.kept, chronicle.Knows own.2
  past : ∀ slot ∈ chronicle.removed, slot.1 < chronicle.next

variable {workspace : Workspace} {chronicle : Chronicle}

namespace Agrees

theorem empty : Agrees {} {} where
  registries := rfl
  first := Nat.zero_lt_one
  next := rfl
  kept := rfl
  known _ member := by cases member
  past _ member := by cases member

/-! ## Looking up names -/

theorem find (agrees : workspace.Agrees chronicle) (name : String) :
    workspace.find name =
      match chronicle.find? name with
      | some kept => .ok (kept.without chronicle.removed)
      | none => .error .unknownName := by
  have same : ((fun own : String × Kept => own.1 == name) ∘ fun own : String × Kept =>
      (own.1, own.2.without chronicle.removed)) = fun own => own.1 == name := rfl
  rw [Workspace.find, Chronicle.find?, agrees.kept, List.find?_map, same]
  cases chronicle.kept.find? fun own => own.1 == name <;> rfl

theorem knows (agrees : workspace.Agrees chronicle) {name : String} {kept : Kept}
    (found : chronicle.find? name = some kept) : chronicle.Knows kept := by
  obtain ⟨own, there, same⟩ := Option.map_eq_some_iff.mp found
  exact same ▸ agrees.known own (List.mem_of_find?_eq_some there)

theorem registry_number (agrees : workspace.Agrees chronicle) (name : String) :
    workspace.registryNumber name =
      match chronicle.registry? name with
      | some number => .ok number
      | none => .error .unknownName := by
  rw [registryNumber, agrees.find, Chronicle.registry?]
  cases chronicle.find? name with
  | none => rfl
  | some kept => cases kept <;> rfl

theorem contract_registry (agrees : workspace.Agrees chronicle) (name : Option String) :
    workspace.optionalRegistry name =
      match chronicle.contractRegistry? name with
      | some number => .ok number
      | none => .error .unknownName := by
  cases name with
  | none => rfl
  | some name =>
      rw [optionalRegistry, agrees.registry_number, Chronicle.contractRegistry?]
      cases chronicle.registry? name <;> rfl

theorem registry_known (agrees : workspace.Agrees chronicle) {name : Option String}
    {registry : Option Nat} (given : chronicle.contractRegistry? name = some registry) :
    ∀ number ∈ registry.toList, number < chronicle.histories.length := by
  cases name with
  | none =>
      cases given
      exact List.forall_mem_nil _
  | some name =>
      obtain ⟨number, found, same⟩ := Option.map_eq_some_iff.mp given
      subst same
      rw [Chronicle.registry?] at found
      split at found
      · rename_i kept
        cases found
        exact (agrees.knows kept).registries
      · cases found

theorem family_length (agrees : workspace.Agrees chronicle) :
    workspace.family.members.length = chronicle.histories.length := by
  rw [agrees.registries, List.length_map]

theorem core (agrees : workspace.Agrees chronicle) : workspace.core = chronicle.core := by
  rw [Workspace.core, Chronicle.core, agrees.registries, List.getElem?_map]

theorem live (agrees : workspace.Agrees chronicle) (name : String) :
    (workspace.live name).toOption = chronicle.live? name := by
  rw [Workspace.live, agrees.find, Chronicle.live?]
  cases chronicle.find? name with
  | none => rfl
  | some kept => cases kept <;> rfl

/-- Whatever can be reached has been made and not been taken out. -/
theorem live_has (agrees : workspace.Agrees chronicle) {name : String} {live : LiveDatum}
    (found : chronicle.live? name = some live) : ∀ slot ∈ live.slots, chronicle.Has slot := by
  intro slot member
  rw [Chronicle.live?] at found
  split at found
  · rename_i own kept
    cases found
    obtain ⟨there, left⟩ := LiveDatum.slots_without member
    exact ⟨(agrees.knows kept).slots slot there, left⟩
  · rename_i shared kept
    cases found
    obtain ⟨there, left⟩ := LiveDatum.slots_without member
    exact ⟨(agrees.knows kept).slots slot there, left⟩
  · cases found

theorem part_has (agrees : workspace.Agrees chronicle) {source : String} {way : List Selector}
    {part : LiveDatum} (found : chronicle.part? source way = some part) :
    ∀ slot ∈ part.slots, chronicle.Has slot := by
  obtain ⟨live, own, reached⟩ := Option.bind_eq_some_iff.mp found
  intro slot member
  cases ended : live.reach way with
  | error fault =>
      rw [ended] at reached
      cases reached
  | ok other =>
      rw [ended] at reached
      cases reached
      exact agrees.live_has own slot (LiveDatum.slots_reach ended member)

/-- A part is there for both or for neither. -/
theorem part_or_none (agrees : workspace.Agrees chronicle) (source : String)
    (way : List Selector) :
    ((∃ fault, workspace.part source way = .error fault) ∧ chronicle.part? source way = none) ∨
      ∃ part, workspace.part source way = .ok part ∧ chronicle.part? source way = some part ∧
        ∀ slot ∈ part.slots, chronicle.Has slot := by
  have same : (workspace.part source way).toOption = chronicle.part? source way := by
    rw [Workspace.part, Chronicle.part?, ← agrees.live]
    cases workspace.live source <;> rfl
  cases found : workspace.part source way with
  | error fault =>
      rw [found] at same
      exact Or.inl ⟨⟨fault, rfl⟩, same.symm⟩
  | ok part =>
      rw [found] at same
      exact Or.inr ⟨part, rfl, same.symm, agrees.part_has same.symm⟩

/-! ## Changes -/

/-- What is kept now has lost nothing yet, so it can be told as it is. -/
theorem keep (agrees : workspace.Agrees chronicle) (name : String) {kept : Kept}
    (slots : ∀ slot ∈ kept.slots, chronicle.Has slot)
    (registries : ∀ number ∈ kept.registries, number < chronicle.histories.length) :
    (workspace.keep name kept).Agrees (chronicle.keep name kept) where
  registries := agrees.registries
  first := agrees.first
  next := agrees.next
  kept := by
    have whole : kept.without chronicle.removed = kept :=
      Kept.without_of_apart fun slot member => (slots slot member).2
    change (name, kept) :: workspace.kept = (name, kept.without chronicle.removed) ::
      chronicle.kept.map fun own => (own.1, own.2.without chronicle.removed)
    rw [whole, agrees.kept]
  known := by
    have same {own : Kept} (knows : chronicle.Knows own) : (chronicle.keep name kept).Knows own :=
      knows.mono (Nat.le_refl _) (Nat.le_refl _)
    exact List.forall_mem_cons.mpr ⟨same ⟨fun slot member => (slots slot member).1, registries⟩,
      fun own member => same (agrees.known own member)⟩
  past := agrees.past

theorem family (agrees : workspace.Agrees chronicle) {changed : RegistryFamily}
    {histories : List History} (follows : changed.Follows histories)
    (grown : chronicle.histories.length ≤ histories.length) :
    Agrees { workspace with family := changed } { chronicle with histories := histories } where
  registries := follows
  first := Nat.lt_of_lt_of_le agrees.first grown
  next := agrees.next
  kept := agrees.kept
  known own member := (agrees.known own member).mono (Nat.le_refl _) grown
  past := agrees.past

theorem grow (agrees : workspace.Agrees chronicle) (count : Nat) :
    Agrees { workspace with next := workspace.next + count }
      { chronicle with next := chronicle.next + count } where
  registries := agrees.registries
  first := agrees.first
  next := congrArg (fun number => number + count) agrees.next
  kept := agrees.kept
  known own member := (agrees.known own member).mono (Nat.le_add_right _ _) (Nat.le_refl _)
  past slot member := Nat.lt_add_right count (agrees.past slot member)

/-- Slots of new mappings were not taken out, since only slots of older ones were. -/
theorem has_new (agrees : workspace.Agrees chronicle) {slot : Nat × String} {count : Nat}
    (new : chronicle.next ≤ slot.1 ∧ slot.1 < chronicle.next + count) :
    Chronicle.Has { chronicle with next := chronicle.next + count } slot :=
  ⟨new.2, fun gone => Nat.not_lt.mpr new.1 (agrees.past slot gone)⟩

theorem keep_fresh (agrees : workspace.Agrees chronicle) (name : String) (datum : Declaration) :
    (workspace.keepFresh name datum).Agrees (chronicle.keepFresh name datum) := by
  rw [keepFresh, Chronicle.keepFresh, agrees.next, ← agrees.next]
  have grown := agrees.grow (LiveDatum.width datum)
  rw [agrees.next] at grown ⊢
  exact grown.keep name (fun slot member => agrees.has_new (LiveDatum.slots_mark member))
    (List.forall_mem_nil _)

theorem make_registry (agrees : workspace.Agrees chronicle) (name : String) {step : RegistryStep}
    (makes : step.Makes) :
    (workspace.leaves (workspace.makeRegistry name step)).Agrees
      (chronicle.makeRegistry name step) := by
  have follows := RegistryFamily.after_follows agrees.registries step
  have recorded : (workspace.family.after step).members.length =
      (step.record chronicle.histories).length := by
    rw [follows, List.length_map]
  rw [RegistryFamily.after] at follows recorded
  rw [makeRegistry, Chronicle.makeRegistry]
  -- Whether the histories have become more tells whether the step was taken.
  cases taken : workspace.family.apply step with
  | error fault =>
      rw [taken] at recorded
      have same : ¬ chronicle.histories.length < (step.record chronicle.histories).length := by
        rw [← recorded, ← agrees.family_length]
        exact Nat.lt_irrefl _
      rw [if_neg same]
      exact agrees
  | ok changed =>
      rw [taken] at recorded follows
      have grown : chronicle.histories.length < (step.record chronicle.histories).length := by
        rw [← recorded, ← agrees.family_length]
        change _ < changed.members.length
        rw [RegistryFamily.apply_makes makes taken]
        exact Nat.lt_succ_self _
      rw [if_pos grown, ← agrees.family_length]
      apply (agrees.family follows (Nat.le_of_lt grown)).keep
      · exact List.forall_mem_nil _
      · rw [agrees.family_length]
        exact List.forall_mem_singleton.mpr grown

theorem register (agrees : workspace.Agrees chronicle) (registry name : String)
    (given : Declaration) (textual : Bool) :
    (workspace.leaves (workspace.register registry name given textual)).Agrees
      (chronicle.register registry name given textual) := by
  rw [Workspace.register, agrees.registry_number, Chronicle.register]
  cases chronicle.registry? registry with
  | none => exact agrees
  | some number =>
      let step : RegistryStep := .register number name given textual
      have follows := RegistryFamily.after_follows agrees.registries step
      have grown := RegistryStep.record_length_le chronicle.histories step
      change (workspace.leaves ((workspace.family.apply step).bind fun changed =>
        .ok { workspace with family := changed })).Agrees
          { chronicle with histories := step.record chronicle.histories }
      rw [RegistryFamily.after] at follows
      cases taken : workspace.family.apply step with
      | error fault =>
          rw [taken] at follows
          exact agrees.family follows grown
      | ok changed =>
          rw [taken] at follows
          exact agrees.family follows grown

theorem copy_registry (agrees : workspace.Agrees chronicle) (source name : String) :
    (workspace.leaves (workspace.copyRegistry source name)).Agrees
      (chronicle.copyRegistry source name) := by
  rw [copyRegistry, agrees.registry_number, Chronicle.copyRegistry]
  cases chronicle.registry? source with
  | none => exact agrees
  | some number => exact agrees.make_registry name trivial

theorem gather_registry (agrees : workspace.Agrees chronicle) (source : String)
    (entries : List String) (name : String) :
    (workspace.leaves (workspace.gatherRegistry source entries name)).Agrees
      (chronicle.gatherRegistry source entries name) := by
  rw [gatherRegistry, agrees.registry_number, Chronicle.gatherRegistry]
  cases chronicle.registry? source with
  | none => exact agrees
  | some number => exact agrees.make_registry name trivial

theorem load_document (agrees : workspace.Agrees chronicle) (disk : Disk) (path name : String) :
    (workspace.leaves (workspace.loadDocument disk path name)).Agrees
      (chronicle.loadDocument disk path name) := by
  rw [load_document_map]
  cases loaded : DocumentRules.loadDocument disk path with
  | error fault =>
      delta Chronicle.loadDocument
      rw [loaded]
      exact agrees
  | ok document =>
      rw [Chronicle.load_document_of_ok loaded]
      exact agrees.keep_fresh name document

theorem keep_part (agrees : workspace.Agrees chronicle) (source : String) (way : List Selector)
    (name : String) :
    (workspace.leaves (workspace.keepPart source way name)).Agrees
      (chronicle.keepPart source way name) := by
  rw [keepPart, Chronicle.keepPart]
  rcases agrees.part_or_none source way with ⟨⟨fault, failed⟩, none⟩ | ⟨part, found, there, has⟩
  · rw [failed, none]
    exact agrees
  · rw [found, there]
    exact agrees.keep name has (List.forall_mem_nil _)

theorem insert_part (agrees : workspace.Agrees chronicle) (entries : List (String × LiveDatum))
    (own : String × String × List Selector) :
    (workspace.insertPart entries own).toOption = chronicle.insertPart? entries own := by
  rw [insertPart, Chronicle.insertPart?]
  rcases agrees.part_or_none own.2.1 own.2.2 with ⟨⟨fault, failed⟩, none⟩ | ⟨part, found, there, _⟩
  · rw [failed, none]
    rfl
  · rw [found, there]
    rfl

theorem insert_parts (agrees : workspace.Agrees chronicle)
    (parts : List (String × String × List Selector)) (entries : List (String × LiveDatum)) :
    (parts.foldlM workspace.insertPart entries).toOption =
      parts.foldlM chronicle.insertPart? entries := by
  induction parts generalizing entries with
  | nil => rfl
  | cons own rest induction =>
      rw [List.foldlM_cons, List.foldlM_cons, ← agrees.insert_part]
      cases workspace.insertPart entries own with
      | error fault => rfl
      | ok longer => exact induction longer

/-- The slots of composed entries are those of the new mapping, or were there before. -/
theorem composed_has (agrees : workspace.Agrees chronicle)
    {parts : List (String × String × List Selector)} {before entries : List (String × LiveDatum)}
    {number : Nat} (composed : parts.foldlM chronicle.insertPart? before = some entries)
    (old : ∀ slot ∈ LiveDatum.slotsOfEntries number before, slot.1 = number ∨ chronicle.Has slot) :
    ∀ slot ∈ LiveDatum.slotsOfEntries number entries, slot.1 = number ∨ chronicle.Has slot := by
  induction parts generalizing before with
  | nil =>
      cases composed
      exact old
  | cons own rest induction =>
      obtain ⟨longer, inserted, further⟩ := Option.bind_eq_some_iff.mp composed
      obtain ⟨part, found, same⟩ := Option.map_eq_some_iff.mp inserted
      apply induction further
      intro slot member
      rw [← same] at member
      rcases LiveDatum.slots_insert member with first | deeper | there
      · exact Or.inl first
      · exact Or.inr (agrees.part_has found slot deeper)
      · exact old slot there

theorem compose (agrees : workspace.Agrees chronicle)
    (parts : List (String × String × List Selector)) (name : String) :
    (workspace.leaves (workspace.compose parts name)).Agrees (chronicle.compose parts name) := by
  have found := agrees.insert_parts parts []
  rw [Workspace.compose, Chronicle.compose]
  cases own : parts.foldlM workspace.insertPart [] with
  | error fault =>
      rw [own] at found
      rw [← found]
      exact agrees
  | ok entries =>
      rw [own] at found
      rw [← found]
      change (Workspace.keep { workspace with next := workspace.next + 1 } name
        (.datum (.mapping workspace.next entries))).Agrees
          (Chronicle.keep { chronicle with next := chronicle.next + 1 } name
            (.datum (.mapping chronicle.next entries)))
      rw [show LiveDatum.mapping workspace.next entries = .mapping chronicle.next entries by
        rw [agrees.next]]
      apply (agrees.grow 1).keep name _ (List.forall_mem_nil _)
      intro slot member
      rcases agrees.composed_has found.symm (List.forall_mem_nil _) slot member with new | there
      · exact agrees.has_new ⟨Nat.le_of_eq new.symm, by omega⟩
      · exact ⟨Nat.lt_succ_of_lt there.1, there.2⟩

theorem lose (agrees : workspace.Agrees chronicle) {number : Nat} {key : String}
    (made : number < chronicle.next) :
    (workspace.lose number key).Agrees
      { chronicle with removed := chronicle.removed ++ [(number, key)] } where
  registries := agrees.registries
  first := agrees.first
  next := agrees.next
  kept := by
    rw [Workspace.lose, agrees.kept, List.map_map]
    apply List.map_congr_left
    intro own _
    exact congrArg (Prod.mk own.1) (Kept.without_append _ _ _).symm
  known own member := (agrees.known own member).mono (Nat.le_refl _) (Nat.le_refl _)
  past := List.forall_mem_append.mpr ⟨agrees.past, List.forall_mem_singleton.mpr made⟩

theorem remove_key (agrees : workspace.Agrees chronicle) (source : String) (way : List Selector)
    (key : String) :
    (workspace.leaves (workspace.removeKey source way key)).Agrees
      (chronicle.removeKey source way key) := by
  rcases agrees.part_or_none source way with ⟨⟨fault, failed⟩, none⟩ | ⟨part, found, there, has⟩
  · rw [removeKey, Chronicle.removeKey, failed, none]
    exact agrees
  · have ran : workspace.removeKey source way key =
        (part.loses key).bind fun number => .ok (workspace.lose number key) := by
      rw [removeKey, found]
      rfl
    rw [ran, Chronicle.removeKey, there, Option.bind_some]
    cases loses : part.loses key with
    | error fault => exact agrees
    | ok number => exact agrees.lose (has _ (LiveDatum.slots_loses loses)).1

theorem make_contract (agrees : workspace.Agrees chronicle) (name : String)
    (title description version : Value) (source : String) (way : List Selector)
    (registryName : Option String) :
    (workspace.leaves (workspace.makeContract name title description version source way
        registryName)).Agrees
      (chronicle.makeContract name title description version source way registryName) := by
  rw [makeContract, agrees.contract_registry, Chronicle.makeContract]
  cases given : chronicle.contractRegistry? registryName with
  | none => exact agrees
  | some registry =>
      rcases agrees.part_or_none source way with ⟨⟨fault, failed⟩, none⟩ | ⟨part, found, there, has⟩
      · rw [failed, none]
        exact agrees
      · rw [found, there]
        change (workspace.leaves ((Contract.make title description version part.content
          none).bind fun contract => .ok (workspace.keep name (.contract ⟨contract.title,
            contract.description, contract.version, part, registry⟩)))).Agrees
              (chronicle.keepContract name ⟨title, description, version, part, registry⟩)
        rw [Chronicle.keepContract]
        cases part.content with
        | mapping entries => exact agrees.keep name has (agrees.registry_known given)
        | _ => exact agrees

theorem load_contract (agrees : workspace.Agrees chronicle) (disk : Disk) (path name : String)
    (registryName : Option String) :
    (workspace.leaves (workspace.loadContract disk path name registryName)).Agrees
      (chronicle.loadContract disk path name registryName) := by
  rw [loadContract, agrees.contract_registry, Chronicle.loadContract]
  cases given : chronicle.contractRegistry? registryName with
  | none => exact agrees
  | some registry =>
      cases loaded : Contract.load disk path none with
      | error fault => exact agrees
      | ok contract =>
          have grown := agrees.grow (LiveDatum.width contract.schema)
          have slots {slot : Nat × String}
              (member : slot ∈ (LiveDatum.mark chronicle.next contract.schema).slots) :=
            agrees.has_new (LiveDatum.slots_mark member)
          change (Workspace.keep
            { workspace with next := workspace.next + LiveDatum.width contract.schema } name
            (.contract ⟨contract.title, contract.description, contract.version,
              LiveDatum.mark workspace.next contract.schema, registry⟩)).Agrees _
          rw [show LiveDatum.mark workspace.next contract.schema =
            LiveDatum.mark chronicle.next contract.schema by rw [agrees.next]]
          exact grown.keep name (fun slot => slots) (agrees.registry_known given)

/-- What a step does is what its record says, also where it fails. -/
theorem after_step (agrees : workspace.Agrees chronicle) (disk : Disk) (step : WorkspaceStep) :
    (workspace.after disk step).Agrees (chronicle.record disk step) := by
  cases step with
  | keepCore name =>
      exact agrees.keep name (List.forall_mem_nil _) (List.forall_mem_singleton.mpr agrees.first)
  | createRegistry name => exact agrees.make_registry name trivial
  | createBundledRegistry name => exact agrees.make_registry name trivial
  | copyRegistry source name => exact agrees.copy_registry source name
  | gatherRegistry source entries name => exact agrees.gather_registry source entries name
  | register registry name given textual => exact agrees.register registry name given textual
  | keepGiven datum name => exact agrees.keep_fresh name datum
  | loadDocument path name => exact agrees.load_document disk path name
  | keepPart source way name => exact agrees.keep_part source way name
  | compose parts name => exact agrees.compose parts name
  | removeKey source way key => exact agrees.remove_key source way key
  | makeContract name title description version source way registry =>
      exact agrees.make_contract name title description version source way registry
  | loadContract path name registry => exact agrees.load_contract disk path name registry
  | check contract value =>
      change (workspace.leaves ((workspace.check contract value).map fun _ => workspace)).Agrees _
      cases workspace.check contract value <;> exact agrees

/-- The induction is on the end of the run: its last step is taken where the others lead. -/
theorem after_run (disk : Disk) (steps : List WorkspaceStep) :
    (run disk steps).Agrees (Chronicle.ofRun disk steps) := by
  induction steps using List.reverseRecOn with
  | nil => exact empty
  | append_singleton steps step induction =>
      rw [run, Chronicle.ofRun, List.foldl_append, List.foldl_append]
      exact after_step induction disk step

end Agrees

end Workspace

end DocumentRules
