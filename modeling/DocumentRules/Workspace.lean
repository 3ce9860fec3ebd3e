import DocumentRules.Contract
import DocumentRules.Registry.Family
import DocumentRules.Workspace.Live

/-!
A workspace keeps registries, data and contracts under names. Names share what they stand
for: a registry that is changed is changed for every contract that uses it, and a key that
is taken out of a mapping is gone from every datum and every contract that the mapping is
a part of. The registry of the core, which every check looks into, is one that can be
changed as well.
-/

set_option autoImplicit false

namespace DocumentRules

/-- A contract whose schema and registry are shared. -/
structure SharedContract where
  title : Value
  description : Value
  version : Value
  schema : LiveDatum
  registry : Option Nat

inductive Kept where
  | registry (number : Nat)
  | datum (live : LiveDatum)
  | contract (shared : SharedContract)

def Kept.without (gone : List (Nat × String)) : Kept → Kept
  | .registry number => .registry number
  | .datum live => .datum (live.without gone)
  | .contract shared => .contract { shared with schema := shared.schema.without gone }

structure Workspace where
  /-- The first registry is that of the core. -/
  family : RegistryFamily := ⟨[.core]⟩
  /-- The number of the next mapping. -/
  next : Nat := 0
  kept : List (String × Kept) := []

namespace Workspace

def find (workspace : Workspace) (name : String) : Except Fault Kept :=
  match workspace.kept.find? fun own => own.1 == name with
  | some (_, kept) => .ok kept
  | none => .error .unknownName

def keep (workspace : Workspace) (name : String) (kept : Kept) : Workspace :=
  { workspace with kept := (name, kept) :: workspace.kept }

/-! ## Registries -/

def core (workspace : Workspace) : Registry := (workspace.family.members[0]?).getD .core

def registryNumber (workspace : Workspace) (name : String) : Except Fault Nat := do
  match ← workspace.find name with
  | .registry number => return number
  | _ => throw .unknownName

def registry (workspace : Workspace) (name : String) : Except Fault Registry := do
  let number ← workspace.registryNumber name
  workspace.family.member number

/-- Takes a step that makes a registry and keeps that under a name. -/
def makeRegistry (workspace : Workspace) (name : String) (step : RegistryStep) :
    Except Fault Workspace := do
  let family ← workspace.family.apply step
  return { workspace with family := family }.keep name (.registry workspace.family.members.length)

def copyRegistry (workspace : Workspace) (source name : String) : Except Fault Workspace := do
  let number ← workspace.registryNumber source
  workspace.makeRegistry name (.copy number)

def gatherRegistry (workspace : Workspace) (source : String) (entries : List String)
    (name : String) : Except Fault Workspace := do
  let number ← workspace.registryNumber source
  workspace.makeRegistry name (.gather (entries.map fun entry => (number, entry)))

def register (workspace : Workspace) (registry name : String) (given : Declaration)
    (textual : Bool) : Except Fault Workspace := do
  let number ← workspace.registryNumber registry
  let family ← workspace.family.apply (.register number name given textual)
  return { workspace with family := family }

/-! ## Data -/

/-- Keeps a datum that shares nothing with what was kept before. -/
def keepFresh (workspace : Workspace) (name : String) (datum : Declaration) : Workspace :=
  { workspace with next := workspace.next + LiveDatum.width datum }.keep name
    (.datum (LiveDatum.mark workspace.next datum))

def loadDocument (workspace : Workspace) (disk : Disk) (path name : String) :
    Except Fault Workspace :=
  match DocumentRules.loadDocument disk path with
  | .ok document => .ok (workspace.keepFresh name document)
  | .error fault => .error (.source fault)

/-- A datum, or the schema of a contract. -/
def live (workspace : Workspace) (name : String) : Except Fault LiveDatum := do
  match ← workspace.find name with
  | .datum live => return live
  | .contract shared => return shared.schema
  | .registry _ => throw .unknownName

def part (workspace : Workspace) (source : String) (way : List Selector) :
    Except Fault LiveDatum := do
  let live ← workspace.live source
  live.reach way

def keepPart (workspace : Workspace) (source : String) (way : List Selector) (name : String) :
    Except Fault Workspace := do
  let part ← workspace.part source way
  return workspace.keep name (.datum part)

def insertPart (workspace : Workspace) (entries : List (String × LiveDatum))
    (own : String × String × List Selector) : Except Fault (List (String × LiveDatum)) := do
  let part ← workspace.part own.2.1 own.2.2
  return LiveDatum.insertEntry own.1 part entries

/-- Keeps a new mapping of parts that are there already. -/
def compose (workspace : Workspace) (parts : List (String × String × List Selector))
    (name : String) : Except Fault Workspace := do
  let entries ← parts.foldlM workspace.insertPart []
  return { workspace with next := workspace.next + 1 }.keep name
    (.datum (.mapping workspace.next entries))

/-- Takes a key out of the mapping with a number. -/
def lose (workspace : Workspace) (number : Nat) (key : String) : Workspace :=
  { workspace with
    kept := workspace.kept.map fun own => (own.1, own.2.without [(number, key)]) }

def removeKey (workspace : Workspace) (source : String) (way : List Selector) (key : String) :
    Except Fault Workspace := do
  let part ← workspace.part source way
  let number ← part.loses key
  return workspace.lose number key

/-! ## Contracts -/

def optionalRegistry (workspace : Workspace) (name : Option String) :
    Except Fault (Option Nat) :=
  match name with
  | none => .ok none
  | some name => (workspace.registryNumber name).map some

/-- Makes a contract of a part of what is kept. -/
def makeContract (workspace : Workspace) (name : String) (title description version : Value)
    (source : String) (way : List Selector) (registryName : Option String) :
    Except Fault Workspace := do
  let registry ← workspace.optionalRegistry registryName
  let part ← workspace.part source way
  let contract ← Contract.make title description version part.content none
  return workspace.keep name
    (.contract ⟨contract.title, contract.description, contract.version, part, registry⟩)

def loadContract (workspace : Workspace) (disk : Disk) (path name : String)
    (registryName : Option String) : Except Fault Workspace := do
  let registry ← workspace.optionalRegistry registryName
  let contract ← Contract.load disk path none
  return { workspace with next := workspace.next + LiveDatum.width contract.schema }.keep name
    (.contract ⟨contract.title, contract.description, contract.version,
      LiveDatum.mark workspace.next contract.schema, registry⟩)

def sharedRegistry (workspace : Workspace) : Option Nat → Except Fault (Option Registry)
  | none => .ok none
  | some number => (workspace.family.member number).map some

/-- A contract with its schema and its registry as they are now. -/
def contract (workspace : Workspace) (name : String) : Except Fault Contract := do
  match ← workspace.find name with
  | .contract shared =>
      let registry ← workspace.sharedRegistry shared.registry
      return ⟨shared.title, shared.description, shared.version, shared.schema.content, registry⟩
  | _ => throw .unknownName

/-- Checks a value with a contract, a registry and a core as they are now. -/
def check (workspace : Workspace) (name : String) (value : Value) :
    Except Fault (Run (List Violation)) :=
  (workspace.contract name).map fun contract => contract.check value workspace.core

end Workspace

end DocumentRules
