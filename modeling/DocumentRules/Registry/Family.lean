import DocumentRules.Registry

/-!
A family of registries that are made and changed one after the other. A registry is
known by its number in the order of creation. Every step makes one registry, or
registers a predicate in one and leaves all others alone; a step that fails changes
nothing.
-/

set_option autoImplicit false

namespace DocumentRules

structure RegistryFamily where
  members : List Registry

inductive RegistryStep where
  | create
  | createBundled
  /-- A registry with the entries of another, as they are now. -/
  | copy (source : Nat)
  /-- A registry of entries that are looked up one by one. -/
  | gather (picks : List (Nat × String))
  | register (target : Nat) (name : String) (given : Declaration) (textual : Bool)

namespace RegistryFamily

def empty : RegistryFamily := ⟨[]⟩

def member (family : RegistryFamily) (number : Nat) : Except Fault Registry :=
  match family.members[number]? with
  | some registry => .ok registry
  | none => .error .unknownName

def add (family : RegistryFamily) (registry : Registry) : RegistryFamily :=
  ⟨family.members ++ [registry]⟩

def picked (family : RegistryFamily) : List (Nat × String) → Except Fault (List RegistryEntry)
  | [] => .ok []
  | (number, name) :: rest => do
      let registry ← family.member number
      match registry.find? name with
      | none => .error .missingEntry
      | some entry => return entry :: (← picked family rest)

def apply (family : RegistryFamily) : RegistryStep → Except Fault RegistryFamily
  | .create => .ok (family.add .empty)
  | .createBundled => .ok (family.add .bundled)
  | .copy source => do
      let registry ← family.member source
      return family.add (.ofEntries registry.entries)
  | .gather picks => do
      let entries ← family.picked picks
      return family.add (.ofEntries entries)
  | .register target name given textual => do
      let registry ← family.member target
      let changed ← registry.register name given textual
      return ⟨family.members.set target changed⟩

/-- The family after a step, which is the same family if the step fails. -/
def after (family : RegistryFamily) (step : RegistryStep) : RegistryFamily :=
  match family.apply step with
  | .ok changed => changed
  | .error _ => family

def run (family : RegistryFamily) (steps : List RegistryStep) : RegistryFamily :=
  steps.foldl after family

end RegistryFamily

end DocumentRules
