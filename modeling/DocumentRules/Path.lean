import DocumentRules.Number.Integer
import DocumentRules.Text.Joined
import DocumentRules.Value.Basic

/-!
Paths into a value. A key is a row of names joined by points; a name that is a pair
of brackets or a dollar sign stands for every element of a list. A path is followed
one segment at a time, and a step that leads nowhere gives null, from which every
further step leads to null.
-/

set_option autoImplicit false

namespace DocumentRules

open Number Text

inductive Segment where
  | field (name : String)
  | index (position : Int)
  /-- A boolean in the place of a position: it counts as zero or one. -/
  | flag (truth : Bool)
  | every
  deriving DecidableEq, Repr

abbrev Path := List Segment

namespace Segment

def ofName (name : String) : Segment :=
  if name = "[]" || name = "$" then .every else .field name

def flagName (truth : Bool) : String := if truth then "True" else "False"

/-- The name under which a segment is looked up in a mapping. -/
def name? : Segment → Option String
  | .field name => some name
  | .index position => some (integerText position)
  | .flag truth => some (flagName truth)
  | .every => none

/-- The position at which a segment is looked up in a list. Names are read as numbers. -/
def position? : Segment → Option Int
  | .field name => readInteger 10 name.toList
  | .index position => some position
  | .flag truth => some (if truth then 1 else 0)
  | .every => none

end Segment

namespace Path

def ofKey (key : String) : Path :=
  (cutAt '.' key.toList).map fun part => Segment.ofName (String.ofList part)

def hasEvery (path : Path) : Bool := path.contains .every

/-- The written form of one segment of a path. The sign for every element is a dollar sign
where it stands alone, and can be left out elsewhere. -/
def partOf? (alone bare : Bool) (segment : Segment) : Option (List Char) :=
  match segment.name? with
  | some name => some name.toList
  | none =>
      if alone then some ['$'] else if bare then none else some ['[', ']']

def writtenAs (bare : Bool) (path : Path) : String :=
  String.ofList (joined ['.'] (path.filterMap (partOf? (path.length == 1) bare)))

def key (path : Path) : String := path.writtenAs false

/-- The key without the signs for every element. -/
def bareKey (path : Path) : String := path.writtenAs true

def orRoot (text : String) : String := if text = "" then "$" else text

/-- The key under which a path is listed in a table. -/
def tableKey (path : Path) : String := orRoot path.key

def label (path : Path) : String := orRoot path.bareKey

end Path

namespace Datum

def element? (items : List Value) (position : Int) : Option Value :=
  if 0 ≤ position then items[position.toNat]? else none

def step (current : Value) (segment : Segment) : Value :=
  match current with
  | .mapping entries => (segment.name?.bind fun name => Datum.entry? name entries).getD .null
  | .list items => (segment.position?.bind fun position => element? items position).getD .null
  | _ => .null

def follow (value : Value) (path : Path) : Value := path.foldl step value

theorem step_null (segment : Segment) : step .null segment = .null := rfl

theorem follow_nil (value : Value) : follow value [] = value := rfl

theorem follow_cons (value : Value) (segment : Segment) (path : Path) :
    follow value (segment :: path) = follow (step value segment) path := rfl

/-- Following two paths one after the other is following them joined. -/
theorem follow_append (value : Value) (first second : Path) :
    follow value (first ++ second) = follow (follow value first) second := by
  simp [follow, List.foldl_append]

theorem follow_null (path : Path) : follow .null path = .null := by
  induction path with
  | nil => rfl
  | cons segment rest induction => rw [follow_cons, step_null, induction]

end Datum

end DocumentRules
