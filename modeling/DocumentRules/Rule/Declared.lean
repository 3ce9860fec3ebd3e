import DocumentRules.Fault
import DocumentRules.Rule.Basic

/-!
Reading declarations into schemas. Rules are read in the order of their declaration,
each before what lies inside it and that before the next rule, and the first fault
ends the reading. Reading a schema that has been read checks its keys once more and
changes nothing.
-/

set_option autoImplicit false

namespace DocumentRules

structure RuleHead where
  tag : Option TypeTag
  allowNull : Bool
  validation : Option Validation
  hasFields : Bool
  enforced : Bool

namespace RuleHead

def readTag (place : String) (given : Declaration) : Except Fault (Option TypeTag) :=
  match given with
  | .null => .ok none
  | .list _ => .error .unhashableType
  | .mapping _ => .error .unhashableType
  | .text name =>
      match TypeTag.ofName? name with
      | some tag => .ok (some tag)
      | none => .error (.schema (.unknownType place given.literal))
  | _ => .error (.schema (.unknownType place given.literal))

def readValidation (place : String) (given : Declaration) : Except Fault (Option Validation) :=
  match given with
  | .null => .ok none
  | .mapping entries => .ok (some entries)
  | _ => .error (.schema (.validateNotMapping place))

def readFields (place : String) (given : Declaration) : Except Fault Bool :=
  match given with
  | .null => .ok false
  | .mapping _ => .ok true
  | _ => .error (.schema (.nestedNotMapping place))

def read (place : String) (given : Declaration) : Except Fault RuleHead :=
  match given with
  | .mapping _ => do
      let tag ← readTag place (given.getOrNull "type")
      let validation ← readValidation place (given.getOrNull "validate")
      let hasFields ← readFields place (given.getOrNull "schema")
      return {
        tag := tag
        allowNull := (given.getOrNull "allowNull").holds
        validation := validation
        hasFields := hasFields
        enforced := ["validate", "type", "allowNull"].any fun key => (given.get? key).isSome }
  | _ => .error (.schema (.ruleNotMapping place given.kindName))

def toRule (head : RuleHead) (fields : Option Schema) : Rule :=
  ⟨head.tag, head.allowNull, head.validation, fields, head.enforced⟩

end RuleHead

namespace Schema

/-- The place of a field inside the place of its schema. -/
def placeOf (place key : String) : String := if place = "" then key else place ++ "." ++ key

mutual

def readRules (place : String) : List (String × Declaration) → Except Fault Schema
  | [] => .ok []
  | (key, given) :: rest =>
      if key = "" then .error (.schema (.emptyKey place))
      else do
        let rule ← readRule (placeOf place key) given
        let later ← readRules place rest
        return (key, rule) :: later

def readRule (place : String) : Declaration → Except Fault Rule
  | .mapping entries => do
      let head ← RuleHead.read place (.mapping entries)
      let fields ← readFields place entries
      return head.toRule fields
  | given => .error (.schema (.ruleNotMapping place given.kindName))

/-- The schema inside a rule, among the rule's entries. -/
def readFields (place : String) : List (String × Declaration) → Except Fault (Option Schema)
  | [] => .ok none
  | (key, given) :: rest =>
      if key = "schema" then
        match given with
        | .mapping entries => (readRules place entries).map some
        | _ => .ok none
      else readFields place rest

end

mutual

def rereadRules (place : String) : Schema → Except Fault Schema
  | [] => .ok []
  | (key, rule) :: rest =>
      if key = "" then .error (.schema (.emptyKey place))
      else do
        let rule ← rereadRule (placeOf place key) rule
        let later ← rereadRules place rest
        return (key, rule) :: later

def rereadRule (place : String) : Rule → Except Fault Rule
  | ⟨tag, allowNull, validation, none, enforced⟩ =>
      .ok ⟨tag, allowNull, validation, none, enforced⟩
  | ⟨tag, allowNull, validation, some fields, enforced⟩ => do
      let fields ← rereadRules place fields
      return ⟨tag, allowNull, validation, some fields, enforced⟩

end

def read (given : Declaration) : Except Fault Schema :=
  match given with
  | .mapping entries => readRules "" entries
  | _ => .error (.schema .schemaNotMapping)

def reread (schema : Schema) : Except Fault Schema := rereadRules "" schema

/-- Reads a schema that has been read so many times more. -/
def rereadTimes : Nat → Schema → Except Fault Schema
  | 0, schema => .ok schema
  | count + 1, schema => (reread schema).bind (rereadTimes count)

end Schema

end DocumentRules
