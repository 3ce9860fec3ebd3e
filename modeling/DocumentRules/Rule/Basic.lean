import DocumentRules.Path
import DocumentRules.Predicate.Basic

/-!
Field rules and the schemas made of them. A rule may ask for a type, for a value to
be present, for predicates to pass, and may hold a schema for what lies inside. A
rule is enforced when its author asked for any of the first three.
-/

set_option autoImplicit false

namespace DocumentRules

inductive TypeTag where
  | string
  | integer
  | float
  | boolean
  | object
  | array
  deriving DecidableEq, Repr

namespace TypeTag

def name : TypeTag → String
  | .string => "string"
  | .integer => "integer"
  | .float => "float"
  | .boolean => "boolean"
  | .object => "object"
  | .array => "array"

def ofName? (name : String) : Option TypeTag :=
  [string, integer, float, boolean, object, array].find? fun tag => tag.name = name

theorem of_name_name (tag : TypeTag) : ofName? tag.name = some tag := by
  cases tag <;> decide

/-- Whole numbers count as floating-point numbers; booleans are no numbers. -/
def admits (tag : TypeTag) (value : Value) : Bool :=
  match tag, value with
  | .string, .text _ => true
  | .integer, .integer _ => true
  | .float, .integer _ => true
  | .float, .float _ => true
  | .boolean, .bool _ => true
  | .object, .mapping _ => true
  | .array, .list _ => true
  | _, _ => false

end TypeTag

/-- The validators of a rule with what the author put beside their names. -/
abbrev Validation := List (String × Declaration)

structure Rule where
  tag : Option TypeTag
  allowNull : Bool
  validation : Option Validation
  fields : Option (List (String × Rule))
  enforced : Bool

/-- Rules by field key, in the order of their declaration. -/
abbrev Schema := List (String × Rule)

namespace Rule

/-- The rule's schema speaks about what lies inside an object or an array. -/
def isNested (rule : Rule) : Bool :=
  match rule.tag, rule.fields with
  | some .object, some _ => true
  | some .array, some _ => true
  | _, _ => false

end Rule

end DocumentRules
