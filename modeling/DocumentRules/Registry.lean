import DocumentRules.Fault
import DocumentRules.Predicate.Named

/-!
Registries: predicates by name, in the order of their first registration. A later
registration of a name replaces the predicate and keeps the place. Whether a
predicate wants its subject as text is recorded with it, and so is a name of its own:
a registry that is made of entries keeps each of them under that.
-/

set_option autoImplicit false

namespace DocumentRules

structure RegistryEntry where
  name : String
  predicate : Predicate
  textual : Bool

/-- What is kept under each name. -/
structure Registry where
  slots : List (String × RegistryEntry)

namespace Registry

def empty : Registry := ⟨[]⟩

/-- Puts an entry into the place of a name, or at the end if the name is new. -/
def place (name : String) (entry : RegistryEntry) :
    List (String × RegistryEntry) → List (String × RegistryEntry)
  | [] => [(name, entry)]
  | own :: rest => if own.1 = name then (name, entry) :: rest else own :: place name entry rest

def put (registry : Registry) (name : String) (entry : RegistryEntry) : Registry :=
  ⟨place name entry registry.slots⟩

/-- Puts an entry under its own name. -/
def insert (registry : Registry) (entry : RegistryEntry) : Registry :=
  registry.put entry.name entry

def ofEntries (entries : List RegistryEntry) : Registry := entries.foldl insert empty

def entries (registry : Registry) : List RegistryEntry := registry.slots.map Prod.snd

def find? (registry : Registry) (name : String) : Option RegistryEntry :=
  (registry.slots.find? fun slot => slot.1 = name).map Prod.snd

def names (registry : Registry) : List String := registry.slots.map Prod.fst

def size (registry : Registry) : Nat := registry.slots.length

def contains (registry : Registry) (name : String) : Bool :=
  registry.slots.any fun slot => slot.1 = name

theorem find_put_same (registry : Registry) (name : String) (entry : RegistryEntry) :
    (registry.put name entry).find? name = some entry := by
  obtain ⟨slots⟩ := registry
  simp only [put, find?]
  induction slots with
  | nil => simp [place]
  | cons own rest induction => by_cases same : own.1 = name <;> simp [place, same, induction]

theorem find_put_other (registry : Registry) (name other : String) (entry : RegistryEntry)
    (different : name ≠ other) : (registry.put name entry).find? other = registry.find? other := by
  obtain ⟨slots⟩ := registry
  simp only [put, find?]
  induction slots with
  | nil => simp [place, different]
  | cons own rest induction =>
      by_cases same : own.1 = name
      · simp [place, same, different]
      · by_cases wanted : own.1 = other
        · subst wanted
          simp [place, same]
        · simpa [place, same, wanted] using induction

/-- A known name keeps its place, a new one comes last. -/
theorem names_put (registry : Registry) (name : String) (entry : RegistryEntry) :
    (registry.put name entry).names =
      if name ∈ registry.names then registry.names else registry.names ++ [name] := by
  obtain ⟨slots⟩ := registry
  simp only [put, names]
  induction slots with
  | nil => simp [place]
  | cons own rest induction =>
      by_cases same : own.1 = name
      · simp [place, same]
      · have different : name ≠ own.1 := fun equal => same equal.symm
        by_cases known : name ∈ rest.map Prod.fst <;> simp_all [place]

theorem contains_iff (registry : Registry) (name : String) :
    registry.contains name = true ↔ name ∈ registry.names := by
  simp [contains, names]

/-- Registers what a declaration gives under a name; only a callable can be registered. -/
def register (registry : Registry) (name : String) (given : Declaration) (textual : Bool) :
    Except Fault Registry :=
  match given with
  | .callable predicate => .ok (registry.put name ⟨name, predicate, textual⟩)
  | _ => .error (.notCallable name)

/-- The predicates for texts. -/
def bundled : Registry :=
  ofEntries (Predicate.textPredicates.map fun (name, predicate) => ⟨name, predicate, true⟩)

/-- The predicates that need no registry. -/
def core : Registry :=
  ofEntries (Predicate.corePredicates.map fun (name, predicate) => ⟨name, predicate, false⟩)

end Registry

/-- What names can stand for in a check: the predicates of a registry, if there is one, and behind
them those of the core. -/
structure Vocabulary where
  registry : Option Registry
  core : Registry := .core

namespace Registry

/-- A name is looked for in the registry, if there is one, and then among the core. -/
def resolve? (words : Vocabulary) (name : String) : Option RegistryEntry :=
  match words.registry.bind fun known => known.find? name with
  | some entry => some entry
  | none => words.core.find? name

end Registry

end DocumentRules
