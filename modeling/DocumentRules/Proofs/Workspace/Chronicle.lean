import DocumentRules.Proofs.Registry.Histories
import DocumentRules.Proofs.Workspace.Live
import DocumentRules.Workspace.Steps

/-!
What a contract finds, told from what has happened and not from what is there. A
chronicle is only added to: for each registry, that of the core among them, it holds the
history; for each name it holds what the name was given to, as that was then; and it
holds which keys were taken out of which mappings. A contract checks with what the
chronicle says about its schema, its registry and the core, whatever has happened to all
others.
-/

set_option autoImplicit false

namespace DocumentRules

namespace History

def core : History :=
  Predicate.corePredicates.map fun (name, predicate) => ⟨name, predicate, false⟩

end History

structure Chronicle where
  /-- The first history is that of the core. -/
  histories : List History := [.core]
  /-- The number of the next mapping. -/
  next : Nat := 0
  /-- The keys that were taken out, each with the number of its mapping. -/
  removed : List (Nat × String) := []
  kept : List (String × Kept) := []

namespace Chronicle

def find? (chronicle : Chronicle) (name : String) : Option Kept :=
  (chronicle.kept.find? fun own => own.1 == name).map Prod.snd

def keep (chronicle : Chronicle) (name : String) (kept : Kept) : Chronicle :=
  { chronicle with kept := (name, kept) :: chronicle.kept }

/-! ## Registries -/

def core (chronicle : Chronicle) : Registry :=
  ((chronicle.histories[0]?).map Registry.ofEntries).getD .core

def registry? (chronicle : Chronicle) (name : String) : Option Nat :=
  match chronicle.find? name with
  | some (.registry number) => some number
  | _ => none

/-- The registry of a new contract, which may have none. -/
def contractRegistry? (chronicle : Chronicle) : Option String → Option (Option Nat)
  | none => some none
  | some name => (chronicle.registry? name).map some

/-- Takes a step that may make a registry and keeps that under a name. -/
def makeRegistry (chronicle : Chronicle) (name : String) (step : RegistryStep) : Chronicle :=
  let grown := { chronicle with histories := step.record chronicle.histories }
  if chronicle.histories.length < grown.histories.length then
    grown.keep name (.registry chronicle.histories.length)
  else chronicle

def copyRegistry (chronicle : Chronicle) (source name : String) : Chronicle :=
  match chronicle.registry? source with
  | none => chronicle
  | some number => chronicle.makeRegistry name (.copy number)

def gatherRegistry (chronicle : Chronicle) (source : String) (entries : List String)
    (name : String) : Chronicle :=
  match chronicle.registry? source with
  | none => chronicle
  | some number => chronicle.makeRegistry name (.gather (entries.map fun entry => (number, entry)))

def register (chronicle : Chronicle) (registry name : String) (given : Declaration)
    (textual : Bool) : Chronicle :=
  match chronicle.registry? registry with
  | none => chronicle
  | some number =>
      let step : RegistryStep := .register number name given textual
      { chronicle with histories := step.record chronicle.histories }

/-! ## Data -/

/-- What was taken out of a datum that came as it is given here. -/
def removedFrom (chronicle : Chronicle) (live : LiveDatum) : List (Nat × String) :=
  chronicle.removed.filter live.slots.contains

/-- What is left of a datum that came as it is given here. -/
def remainder (chronicle : Chronicle) (live : LiveDatum) : Declaration :=
  (live.without (chronicle.removedFrom live)).content

def live? (chronicle : Chronicle) (name : String) : Option LiveDatum :=
  match chronicle.find? name with
  | some (.datum live) => some (live.without chronicle.removed)
  | some (.contract shared) => some (shared.schema.without chronicle.removed)
  | _ => none

def part? (chronicle : Chronicle) (source : String) (way : List Selector) : Option LiveDatum :=
  (chronicle.live? source).bind fun live => (live.reach way).toOption

def keepFresh (chronicle : Chronicle) (name : String) (datum : Declaration) : Chronicle :=
  { chronicle with next := chronicle.next + LiveDatum.width datum }.keep name
    (.datum (LiveDatum.mark chronicle.next datum))

def loadDocument (chronicle : Chronicle) (disk : Disk) (path name : String) : Chronicle :=
  match DocumentRules.loadDocument disk path with
  | .ok document => chronicle.keepFresh name document
  | .error _ => chronicle

def keepPart (chronicle : Chronicle) (source : String) (way : List Selector) (name : String) :
    Chronicle :=
  match chronicle.part? source way with
  | none => chronicle
  | some part => chronicle.keep name (.datum part)

def insertPart? (chronicle : Chronicle) (entries : List (String × LiveDatum))
    (own : String × String × List Selector) : Option (List (String × LiveDatum)) :=
  (chronicle.part? own.2.1 own.2.2).map fun part => LiveDatum.insertEntry own.1 part entries

def compose (chronicle : Chronicle) (parts : List (String × String × List Selector))
    (name : String) : Chronicle :=
  match parts.foldlM chronicle.insertPart? [] with
  | none => chronicle
  | some entries =>
      { chronicle with next := chronicle.next + 1 }.keep name
        (.datum (.mapping chronicle.next entries))

def removeKey (chronicle : Chronicle) (source : String) (way : List Selector) (key : String) :
    Chronicle :=
  match (chronicle.part? source way).bind fun part => (part.loses key).toOption with
  | none => chronicle
  | some number => { chronicle with removed := chronicle.removed ++ [(number, key)] }

/-! ## Contracts -/

/-- Keeps a contract if its schema is a mapping. -/
def keepContract (chronicle : Chronicle) (name : String) (shared : SharedContract) : Chronicle :=
  match shared.schema.content with
  | .mapping _ => chronicle.keep name (.contract shared)
  | _ => chronicle

def makeContract (chronicle : Chronicle) (name : String) (title description version : Value)
    (source : String) (way : List Selector) (registry : Option String) : Chronicle :=
  match chronicle.contractRegistry? registry, chronicle.part? source way with
  | some number, some part =>
      chronicle.keepContract name ⟨title, description, version, part, number⟩
  | _, _ => chronicle

def loadContract (chronicle : Chronicle) (disk : Disk) (path name : String)
    (registry : Option String) : Chronicle :=
  match chronicle.contractRegistry? registry, Contract.load disk path none with
  | some number, .ok contract =>
      { chronicle with next := chronicle.next + LiveDatum.width contract.schema }.keep name
        (.contract ⟨contract.title, contract.description, contract.version,
          LiveDatum.mark chronicle.next contract.schema, number⟩)
  | _, _ => chronicle

/-- What has happened after a step. -/
def record (disk : Disk) (chronicle : Chronicle) : WorkspaceStep → Chronicle
  | .keepCore name => chronicle.keep name (.registry 0)
  | .createRegistry name => chronicle.makeRegistry name .create
  | .createBundledRegistry name => chronicle.makeRegistry name .createBundled
  | .copyRegistry source name => chronicle.copyRegistry source name
  | .gatherRegistry source entries name => chronicle.gatherRegistry source entries name
  | .register registry name given textual => chronicle.register registry name given textual
  | .keepGiven datum name => chronicle.keepFresh name datum
  | .loadDocument path name => chronicle.loadDocument disk path name
  | .keepPart source way name => chronicle.keepPart source way name
  | .compose parts name => chronicle.compose parts name
  | .removeKey source way key => chronicle.removeKey source way key
  | .makeContract name title description version source way registry =>
      chronicle.makeContract name title description version source way registry
  | .loadContract path name registry => chronicle.loadContract disk path name registry
  | .check _ _ => chronicle

/-- The chronicle of a run that begins with nothing but the core. -/
def ofRun (disk : Disk) (steps : List WorkspaceStep) : Chronicle := steps.foldl (record disk) {}

end Chronicle

/-! ## What is known -/

namespace Kept

def slots : Kept → List (Nat × String)
  | .registry _ => []
  | .datum live => live.slots
  | .contract shared => shared.schema.slots

def registries : Kept → List Nat
  | .registry number => [number]
  | .datum _ => []
  | .contract shared => shared.registry.toList

theorem slots_without {gone : List (Nat × String)} {kept : Kept} {slot : Nat × String}
    (member : slot ∈ (kept.without gone).slots) : slot ∈ kept.slots ∧ slot ∉ gone := by
  cases kept with
  | registry number => cases member
  | datum live => exact LiveDatum.slots_without member
  | contract shared => exact LiveDatum.slots_without member

theorem without_of_apart {gone : List (Nat × String)} {kept : Kept}
    (apart : ∀ slot ∈ kept.slots, slot ∉ gone) : kept.without gone = kept := by
  cases kept with
  | registry number => rfl
  | datum live => rw [Kept.without, LiveDatum.without_of_apart apart]
  | contract shared => rw [Kept.without, LiveDatum.without_of_apart apart]

theorem without_append (gone later : List (Nat × String)) (kept : Kept) :
    kept.without (gone ++ later) = (kept.without gone).without later := by
  cases kept with
  | registry number => rfl
  | datum live => simp only [Kept.without, LiveDatum.without_append]
  | contract shared => simp only [Kept.without, LiveDatum.without_append]

end Kept

namespace Chronicle

/-- A slot of a mapping that has been made, and that was not taken out. -/
def Has (chronicle : Chronicle) (slot : Nat × String) : Prop :=
  slot.1 < chronicle.next ∧ slot ∉ chronicle.removed

/-- What something kept refers to has been made. -/
structure Knows (chronicle : Chronicle) (kept : Kept) : Prop where
  slots : ∀ slot ∈ kept.slots, slot.1 < chronicle.next
  registries : ∀ number ∈ kept.registries, number < chronicle.histories.length

theorem Knows.mono {chronicle later : Chronicle} {kept : Kept} (knows : chronicle.Knows kept)
    (next : chronicle.next ≤ later.next)
    (histories : chronicle.histories.length ≤ later.histories.length) : later.Knows kept where
  slots slot member := Nat.lt_of_lt_of_le (knows.slots slot member) next
  registries number member := Nat.lt_of_lt_of_le (knows.registries number member) histories

theorem remainder_eq (chronicle : Chronicle) (live : LiveDatum) :
    (live.without chronicle.removed).content = chronicle.remainder live := by
  rw [remainder, LiveDatum.without_congr]
  intro slot member
  rw [removedFrom, List.mem_filter, List.contains_iff_mem]
  exact (and_iff_left member).symm

theorem load_document_of_ok {disk : Disk} {path : String} {document : Declaration}
    (loaded : DocumentRules.loadDocument disk path = .ok document) (chronicle : Chronicle)
    (name : String) :
    chronicle.loadDocument disk path name = chronicle.keepFresh name document := by
  -- An equation of the function would evaluate the loading.
  delta Chronicle.loadDocument
  rw [loaded]

theorem load_contract_of_ok {disk : Disk} {path : String} {contract : Contract}
    (loaded : Contract.load disk path none = .ok contract) (chronicle : Chronicle)
    (name : String) :
    chronicle.loadContract disk path name none =
      { chronicle with next := chronicle.next + LiveDatum.width contract.schema }.keep name
        (.contract ⟨contract.title, contract.description, contract.version,
          LiveDatum.mark chronicle.next contract.schema, none⟩) := by
  delta Chronicle.loadContract
  rw [loaded]
  rfl

end Chronicle

namespace RegistryStep

/-- The step makes a registry if it does not fail. -/
def Makes : RegistryStep → Prop
  | .register _ _ _ _ => False
  | _ => True

theorem record_length_le (histories : List History) (step : RegistryStep) :
    histories.length ≤ (step.record histories).length := by
  cases step with
  | create => simp [record]
  | createBundled => simp [record]
  | copy source => cases found : histories[source]? <;> simp [record, found]
  | gather picks => cases found : picked? histories picks <;> simp [record, found]
  | register target name given textual =>
      cases found : histories[target]? <;> cases given <;> simp [record, found]

end RegistryStep

end DocumentRules
