import DocumentRules.Fault

/-!
Data whose mappings can be changed. A mapping is known by a number, and it may be met in
several places: a key that is taken out of it is gone in each of them. A part of a datum
is the datum's own and no copy.
-/

set_option autoImplicit false

namespace DocumentRules

inductive LiveDatum where
  /-- Neither a list nor a mapping. -/
  | leaf (datum : Declaration)
  | list (items : List LiveDatum)
  | mapping (number : Nat) (entries : List (String × LiveDatum))

/-- A step from a datum to one of its parts. -/
inductive Selector where
  | key (name : String)
  | place (position : Nat)

namespace LiveDatum

mutual

/-- What a datum holds at the moment. -/
def content : LiveDatum → Declaration
  | .leaf datum => datum
  | .list items => .list (contentItems items)
  | .mapping _ entries => .mapping (contentEntries entries)

def contentItems : List LiveDatum → List Declaration
  | [] => []
  | item :: rest => item.content :: contentItems rest

def contentEntries : List (String × LiveDatum) → List (String × Declaration)
  | [] => []
  | (key, item) :: rest => (key, item.content) :: contentEntries rest

end

mutual

/-- Takes keys out of the mappings with given numbers. -/
def without (gone : List (Nat × String)) : LiveDatum → LiveDatum
  | .leaf datum => .leaf datum
  | .list items => .list (withoutInItems gone items)
  | .mapping number entries => .mapping number (withoutInEntries gone number entries)

def withoutInItems (gone : List (Nat × String)) : List LiveDatum → List LiveDatum
  | [] => []
  | item :: rest => item.without gone :: withoutInItems gone rest

def withoutInEntries (gone : List (Nat × String)) (number : Nat) :
    List (String × LiveDatum) → List (String × LiveDatum)
  | [] => []
  | (key, item) :: rest =>
      if (number, key) ∈ gone then withoutInEntries gone number rest
      else (key, item.without gone) :: withoutInEntries gone number rest

end

def item? (key : String) : List (String × LiveDatum) → Option LiveDatum
  | [] => none
  | (own, item) :: rest => if own = key then some item else item? key rest

def part (datum : LiveDatum) (selector : Selector) : Except Fault LiveDatum :=
  match datum, selector with
  | .mapping _ entries, .key name => (item? name entries).elim (.error .missingKey) .ok
  | .mapping _ _, .place _ => .error .missingKey
  | .list items, .place position => (items[position]?).elim (.error .missingItem) .ok
  | .leaf (.text value), .place position =>
      (value.toList[position]?).elim (.error .missingItem) fun c =>
        .ok (.leaf (.text (String.singleton c)))
  | _, _ => .error (.breakdown .unsuitableKind)

def reach (datum : LiveDatum) : List Selector → Except Fault LiveDatum
  | [] => .ok datum
  | selector :: rest => do
      let own ← datum.part selector
      own.reach rest

/-- The number of the mapping that loses a key. -/
def loses (datum : LiveDatum) (key : String) : Except Fault Nat :=
  match datum with
  | .mapping number entries => (item? key entries).elim (.error .missingKey) fun _ => .ok number
  | .list _ => .error (.breakdown .unsuitableKind)
  | .leaf _ => .error (.breakdown .lackingOperation)

def keys : LiveDatum → List String
  | .mapping _ entries => entries.map Prod.fst
  | _ => []

/-- Puts a key into a list of entries: a known key keeps its place and takes the new datum. -/
def insertEntry (key : String) (item : LiveDatum) :
    List (String × LiveDatum) → List (String × LiveDatum)
  | [] => [(key, item)]
  | (own, old) :: rest =>
      if own = key then (key, item) :: rest else (own, old) :: insertEntry key item rest

mutual

/-- The number of mappings in a datum. -/
def width : Declaration → Nat
  | .list items => widthOfItems items
  | .mapping entries => widthOfEntries entries + 1
  | _ => 0

def widthOfItems : List Declaration → Nat
  | [] => 0
  | item :: rest => width item + widthOfItems rest

def widthOfEntries : List (String × Declaration) → Nat
  | [] => 0
  | (_, item) :: rest => width item + widthOfEntries rest

end

mutual

/-- A datum of its own, in which the mappings get the numbers from the next one on. -/
def mark (next : Nat) : Declaration → LiveDatum
  | .list items => .list (markItems next items)
  | .mapping entries => .mapping next (markEntries (next + 1) entries)
  | datum => .leaf datum

def markItems (next : Nat) : List Declaration → List LiveDatum
  | [] => []
  | item :: rest => mark next item :: markItems (next + width item) rest

def markEntries (next : Nat) : List (String × Declaration) → List (String × LiveDatum)
  | [] => []
  | (key, item) :: rest => (key, mark next item) :: markEntries (next + width item) rest

end

end LiveDatum

end DocumentRules
