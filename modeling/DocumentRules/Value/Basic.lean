import DocumentRules.Number.Binary64

/-!
The data that rules are declared in and applied to. A datum is null, a boolean, a
whole number of any size, a floating-point number, a text, a list, a mapping whose
entries keep their order, or a callable. What stands behind a callable is a
parameter: a declaration holds predicates there, a plain value holds nothing.
-/

set_option autoImplicit false

namespace DocumentRules

open Number

inductive Datum (κ : Type) where
  | null
  | bool (truth : Bool)
  | integer (value : Int)
  | float (value : Binary64)
  | text (value : String)
  | list (items : List (Datum κ))
  | mapping (entries : List (String × Datum κ))
  | callable (behind : κ)
  deriving Inhabited

/-- A datum in which nothing can be called. -/
abbrev Value := Datum Unit

namespace Datum

variable {κ ι : Type}

mutual

/-- Replaces what stands behind every callable. -/
def relabel (change : κ → ι) : Datum κ → Datum ι
  | .null => .null
  | .bool truth => .bool truth
  | .integer value => .integer value
  | .float value => .float value
  | .text value => .text value
  | .list items => .list (relabelItems change items)
  | .mapping entries => .mapping (relabelEntries change entries)
  | .callable behind => .callable (change behind)

def relabelItems (change : κ → ι) : List (Datum κ) → List (Datum ι)
  | [] => []
  | item :: rest => item.relabel change :: relabelItems change rest

def relabelEntries (change : κ → ι) : List (String × Datum κ) → List (String × Datum ι)
  | [] => []
  | (key, item) :: rest => (key, item.relabel change) :: relabelEntries change rest

end

/-- The value left when nothing is kept behind the callables. -/
def plain (datum : Datum κ) : Value := datum.relabel fun _ => ()

/-- The entry of a key in a list of entries; the first one counts. -/
def entry? (key : String) : List (String × Datum κ) → Option (Datum κ)
  | [] => none
  | (own, item) :: rest => if own = key then some item else entry? key rest

/-- The datum under a key of a mapping. -/
def get? (datum : Datum κ) (key : String) : Option (Datum κ) :=
  match datum with
  | .mapping entries => entry? key entries
  | _ => none

/-- The datum under a key, where a missing key counts as null. -/
def getOrNull (datum : Datum κ) (key : String) : Datum κ := (datum.get? key).getD .null

def isNull : Datum κ → Bool
  | .null => true
  | _ => false

def isContainer : Datum κ → Bool
  | .list _ => true
  | .mapping _ => true
  | _ => false

/-- Null, false, zero, and empty texts and containers do not hold. -/
def holds : Datum κ → Bool
  | .null => false
  | .bool truth => truth
  | .integer value => value != 0
  | .float value => !value.isZero
  | .text value => !value.isEmpty
  | .list items => !items.isEmpty
  | .mapping entries => !entries.isEmpty
  | .callable _ => true

/-- The name under which messages speak of a kind of datum. -/
def kindName : Datum κ → String
  | .null => "NoneType"
  | .bool _ => "bool"
  | .integer _ => "int"
  | .float _ => "float"
  | .text _ => "str"
  | .list _ => "list"
  | .mapping _ => "dict"
  | .callable _ => "function"

/-- Containers cannot be looked up in a table. -/
def isHashable : Datum κ → Bool
  | .list _ => false
  | .mapping _ => false
  | _ => true

/-- Puts a key into a list of entries: a known key keeps its place and takes the new datum. -/
def insertEntry (key : String) (item : Datum κ) :
    List (String × Datum κ) → List (String × Datum κ)
  | [] => [(key, item)]
  | (own, old) :: rest =>
      if own = key then (key, item) :: rest else (own, old) :: insertEntry key item rest

theorem entry_insert_same (key : String) (item : Datum κ) (entries : List (String × Datum κ)) :
    entry? key (insertEntry key item entries) = some item := by
  induction entries with
  | nil => simp [insertEntry, entry?]
  | cons entry rest induction =>
      obtain ⟨own, old⟩ := entry
      by_cases same : own = key <;> simp [insertEntry, entry?, same, induction]

theorem entry_insert_other (key other : String) (different : key ≠ other) (item : Datum κ)
    (entries : List (String × Datum κ)) :
    entry? other (insertEntry key item entries) = entry? other entries := by
  induction entries with
  | nil => simp [insertEntry, entry?, different]
  | cons entry rest induction =>
      obtain ⟨own, old⟩ := entry
      by_cases same : own = key
      · simp [insertEntry, entry?, same, different]
      · by_cases wanted : own = other
        · subst wanted
          simp [insertEntry, entry?, same]
        · simp [insertEntry, entry?, same, wanted, induction]

/-- A known key keeps its place, a new one comes last. -/
theorem keys_insert (key : String) (item : Datum κ) (entries : List (String × Datum κ)) :
    (insertEntry key item entries).map Prod.fst =
      if key ∈ entries.map Prod.fst then entries.map Prod.fst
      else entries.map Prod.fst ++ [key] := by
  induction entries with
  | nil => simp [insertEntry]
  | cons entry rest induction =>
      obtain ⟨own, old⟩ := entry
      by_cases same : own = key
      · simp [insertEntry, same]
      · have different : key ≠ own := fun equal => same equal.symm
        by_cases known : key ∈ rest.map Prod.fst <;>
          simp_all [insertEntry]

end Datum

/-- A number of either sort; a boolean counts as zero or one. -/
inductive Numeral where
  | integer (value : Int)
  | float (value : Binary64)
  deriving DecidableEq

namespace Numeral

/-- Exact order of two numbers; a number that is not a number has no place in it. -/
def compare? : Numeral → Numeral → Option Ordering
  | .integer left, .integer right => some (compare left right)
  | .integer left, .float right => right.compareInteger? left
  | .float left, .integer right => (left.compareInteger? right).map Ordering.swap
  | .float left, .float right => left.compare? right

end Numeral

namespace Datum

variable {κ : Type}

def numeral? : Datum κ → Option Numeral
  | .bool truth => some (.integer (if truth then 1 else 0))
  | .integer value => some (.integer value)
  | .float value => some (.float value)
  | _ => none

end Datum

namespace Datum

def equalNumbers (left : Numeral) (right : Value) : Bool :=
  match right.numeral? with
  | some number => left.compare? number == some .eq
  | none => false

mutual

/-- Equality of values. Numbers are equal by value whatever their sort, mappings are equal
whatever the order of their entries, and callables are equal to nothing. -/
def equals : Value → Value → Bool
  | .null, .null => true
  | .text left, .text right => left == right
  | .list left, .list right => equalItems left right
  | .mapping left, .mapping right =>
      left.length == right.length && equalEntries left right
  | .bool left, right => equalNumbers (.integer (if left then 1 else 0)) right
  | .integer left, right => equalNumbers (.integer left) right
  | .float left, right => equalNumbers (.float left) right
  | _, _ => false

def equalItems : List Value → List Value → Bool
  | [], [] => true
  | left :: lefts, right :: rights => equals left right && equalItems lefts rights
  | _, _ => false

/-- Every entry on the left has an equal one on the right. -/
def equalEntries : List (String × Value) → List (String × Value) → Bool
  | [], _ => true
  | (key, left) :: rest, right =>
      (match Datum.entry? key right with
        | some other => equals left other
        | none => false) && equalEntries rest right

end

end Datum

end DocumentRules
