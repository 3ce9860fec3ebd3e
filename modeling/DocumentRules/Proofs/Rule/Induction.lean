import DocumentRules.Rule.Table

/-!
Induction over schemas: a statement about fields and one about rules hold together
when each step of building a schema keeps them. The second form tells apart the rules
that lead into an object, those that lead into the elements of an array, and all others.
-/

set_option autoImplicit false

namespace DocumentRules.Schema

/-- The steps of building fields and rules keep two statements about them. -/
structure Hereditary (ofFields : List (String × Rule) → Prop) (ofRule : Rule → Prop) : Prop where
  nil : ofFields []
  cons : ∀ key rule rest, ofRule rule → ofFields rest → ofFields ((key, rule) :: rest)
  flat : ∀ tag allowNull validation enforced,
    ofRule ⟨tag, allowNull, validation, none, enforced⟩
  deep : ∀ tag allowNull validation inner enforced, ofFields inner →
    ofRule ⟨tag, allowNull, validation, some inner, enforced⟩

variable {ofFields : List (String × Rule) → Prop} {ofRule : Rule → Prop}

mutual

theorem Hereditary.fields (steps : Hereditary ofFields ofRule) :
    ∀ fields : List (String × Rule), ofFields fields
  | [] => steps.nil
  | (key, rule) :: rest => steps.cons key rule rest (steps.rule rule) (steps.fields rest)

theorem Hereditary.rule (steps : Hereditary ofFields ofRule) : ∀ rule : Rule, ofRule rule
  | ⟨tag, allowNull, validation, none, enforced⟩ => steps.flat tag allowNull validation enforced
  | ⟨tag, allowNull, validation, some inner, enforced⟩ =>
      steps.deep tag allowNull validation inner enforced (steps.fields inner)

end

/-- The same, by what a rule says about the values that its own schema speaks of. -/
structure Nesting (ofFields : List (String × Rule) → Prop) (ofRule : Rule → Prop) : Prop where
  nil : ofFields []
  cons : ∀ key rule rest, ofRule rule → ofFields rest → ofFields ((key, rule) :: rest)
  object : ∀ allowNull validation inner enforced, ofFields inner →
    ofRule ⟨some .object, allowNull, validation, some inner, enforced⟩
  array : ∀ allowNull validation inner enforced, ofFields inner →
    ofRule ⟨some .array, allowNull, validation, some inner, enforced⟩
  other : ∀ rule : Rule, rule.isNested = false → ofRule rule

theorem Nesting.hereditary (steps : Nesting ofFields ofRule) : Hereditary ofFields ofRule := by
  refine ⟨steps.nil, steps.cons, ?_, ?_⟩
  · intro tag allowNull validation enforced
    apply steps.other
    cases tag with
    | none => rfl
    | some tag => cases tag <;> rfl
  · intro tag allowNull validation inner enforced holds
    cases tag with
    | none => exact steps.other _ rfl
    | some tag =>
        cases tag with
        | object => exact steps.object allowNull validation inner enforced holds
        | array => exact steps.array allowNull validation inner enforced holds
        | _ => exact steps.other _ rfl

section Other

variable {tag : Option TypeTag} {allowNull : Bool} {validation : Option Validation}
  {fields : Option (List (String × Rule))} {enforced : Bool}

theorem not_object_of_other
    (other : Rule.isNested ⟨tag, allowNull, validation, fields, enforced⟩ = false)
    (inner : List (String × Rule)) (object : tag = some .object) (given : fields = some inner) :
    False := by
  rw [object, given] at other
  cases other

theorem not_array_of_other
    (other : Rule.isNested ⟨tag, allowNull, validation, fields, enforced⟩ = false)
    (inner : List (String × Rule)) (array : tag = some .array) (given : fields = some inner) :
    False := by
  rw [array, given] at other
  cases other

end Other

theorem table_of_other (path : Path) (rule : Rule) (other : rule.isNested = false) :
    ruleTable path rule = if rule.enforced then [⟨path, rule⟩] else [] := by
  obtain ⟨tag, allowNull, validation, fields, enforced⟩ := rule
  rw [ruleTable, List.nil_append]
  · exact not_object_of_other other
  · exact not_array_of_other other

end DocumentRules.Schema
