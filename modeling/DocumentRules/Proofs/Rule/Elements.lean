import DocumentRules.Check
import DocumentRules.Proofs.Rule.Graphs

/-!
The schema of an array whose elements a given schema describes. It can be handed over in
every way in which the given one can, and it is read whenever that one is: the given
schema then lies inside a rule of its own, but where a schema lies shows only in the
faults of reading it.
-/

set_option autoImplicit false

namespace DocumentRules

/-! ## Reading somewhere else -/

namespace RuleHead

variable {place other : String} {given : Declaration}

theorem read_tag_elsewhere {tag : Option TypeTag} (read : readTag place given = .ok tag) :
    readTag other given = .ok tag := by
  cases given with
  | text name =>
      cases found : TypeTag.ofName? name with
      | none => simp [readTag, found] at read
      | some own => simpa [readTag, found] using read
  | null => exact read
  | _ => cases read

theorem read_validation_elsewhere {validation : Option Validation}
    (read : readValidation place given = .ok validation) :
    readValidation other given = .ok validation := by
  cases given with
  | null => exact read
  | mapping entries => exact read
  | _ => cases read

theorem read_fields_elsewhere {hasFields : Bool} (read : readFields place given = .ok hasFields) :
    readFields other given = .ok hasFields := by
  cases given with
  | null => exact read
  | mapping entries => exact read
  | _ => cases read

theorem read_elsewhere {head : RuleHead} (ran : RuleHead.read place given = .ok head) :
    RuleHead.read other given = .ok head := by
  cases given with
  | mapping entries =>
      obtain ⟨tag, own, ran⟩ := Run.except_bind_ok ran
      obtain ⟨validation, validated, ran⟩ := Run.except_bind_ok ran
      obtain ⟨hasFields, fields, ran⟩ := Run.except_bind_ok ran
      simp only [RuleHead.read, read_tag_elsewhere own, read_validation_elsewhere validated,
        read_fields_elsewhere fields]
      exact ran
  | _ => cases ran

end RuleHead

namespace Schema

mutual

theorem read_rules_elsewhere (other : String) : ∀ (place : String)
    (entries : List (String × Declaration)) (schema : Schema),
    readRules place entries = .ok schema → readRules other entries = .ok schema
  | _, [], _, ran => ran
  | place, (key, given) :: rest, schema, ran => by
      by_cases nameless : key = ""
      · simp [readRules, nameless] at ran
      · rw [readRules, if_neg nameless] at ran ⊢
        obtain ⟨rule, own, ran⟩ := Run.except_bind_ok ran
        obtain ⟨later, others, ran⟩ := Run.except_bind_ok ran
        simp only [read_rule_elsewhere (placeOf other key) _ given rule own,
          read_rules_elsewhere other place rest later others]
        exact ran

theorem read_rule_elsewhere (other : String) : ∀ (place : String) (given : Declaration)
    (rule : Rule), readRule place given = .ok rule → readRule other given = .ok rule
  | place, .mapping entries, rule, ran => by
      rw [readRule] at ran ⊢
      obtain ⟨head, own, ran⟩ := Run.except_bind_ok ran
      obtain ⟨fields, inside, ran⟩ := Run.except_bind_ok ran
      simp only [RuleHead.read_elsewhere own,
        read_inner_elsewhere other place entries fields inside]
      exact ran
  | _, .null, _, ran => by cases ran
  | _, .bool _, _, ran => by cases ran
  | _, .integer _, _, ran => by cases ran
  | _, .float _, _, ran => by cases ran
  | _, .text _, _, ran => by cases ran
  | _, .list _, _, ran => by cases ran
  | _, .callable _, _, ran => by cases ran

theorem read_inner_elsewhere (other : String) : ∀ (place : String)
    (entries : List (String × Declaration)) (fields : Option Schema),
    readFields place entries = .ok fields → readFields other entries = .ok fields
  | _, [], _, ran => ran
  | place, (key, given) :: rest, fields, ran => by
      by_cases own : key = "schema"
      · subst own
        cases given with
        | mapping entries =>
            simp only [readFields, if_true] at ran ⊢
            cases inside : readRules place entries with
            | error fault =>
                rw [inside] at ran
                cases ran
            | ok schema =>
                rw [inside] at ran
                rw [read_rules_elsewhere other place entries schema inside]
                exact ran
        | _ => exact ran
      · have skipped := read_inner_elsewhere other place rest fields
        cases given <;> simp only [readFields, if_neg own] at ran ⊢ <;> exact skipped ran

end

mutual

theorem reread_rules_elsewhere (other : String) : ∀ (place : String) (given schema : Schema),
    rereadRules place given = .ok schema → rereadRules other given = .ok schema
  | _, [], _, ran => ran
  | place, (key, rule) :: rest, schema, ran => by
      by_cases nameless : key = ""
      · simp [rereadRules, nameless] at ran
      · rw [rereadRules, if_neg nameless] at ran ⊢
        obtain ⟨again, own, ran⟩ := Run.except_bind_ok ran
        obtain ⟨later, others, ran⟩ := Run.except_bind_ok ran
        simp only [reread_rule_elsewhere (placeOf other key) _ rule again own,
          reread_rules_elsewhere other place rest later others]
        exact ran

theorem reread_rule_elsewhere (other : String) : ∀ (place : String) (rule again : Rule),
    rereadRule place rule = .ok again → rereadRule other rule = .ok again
  | _, ⟨_, _, _, none, _⟩, _, ran => ran
  | place, ⟨tag, allowNull, validation, some fields, enforced⟩, again, ran => by
      rw [rereadRule] at ran ⊢
      obtain ⟨inner, inside, ran⟩ := Run.except_bind_ok ran
      rw [reread_rules_elsewhere other place fields inner inside]
      exact ran

end

end Schema

/-! ## The schema of an array -/

/-- Asks for an array and for every element of it to fit a schema. -/
def Schema.ofElements (schema : Schema) : Schema :=
  [("$", ⟨some .array, false, none, some schema, true⟩)]

namespace SchemaGraph

def shifted (linked : LinkedRule) : LinkedRule := ⟨linked.given, linked.target.map (· + 1)⟩

def shiftedRules (rules : List (String × LinkedRule)) : List (String × LinkedRule) :=
  rules.map fun (key, linked) => (key, shifted linked)

/-- A new root with one rule, whose schema is the old root. -/
def ofElements (graph : SchemaGraph) : SchemaGraph where
  mappings :=
    [("$", ⟨.mapping [("type", .text "array"), ("schema", .mapping [])], some 1⟩)] ::
      graph.mappings.map shiftedRules

theorem mapping_of_elements (graph : SchemaGraph) (number : Nat) :
    graph.ofElements.mapping (number + 1) = shiftedRules (graph.mapping number) := by
  simp only [mapping, ofElements, List.getElem?_cons_succ, List.getElem?_map]
  cases graph.mappings[number]? <;> rfl

section Shifted

variable {read other : String → Nat → Except Fault Schema}

theorem read_one_shifted
    (inner : ∀ place elsewhere number fields, read place number = .ok fields →
      other elsewhere (number + 1) = .ok fields)
    {place elsewhere : String} {linked : LinkedRule} {rule : Rule}
    (ran : readOne read place linked = .ok rule) :
    readOne other elsewhere (shifted linked) = .ok rule := by
  obtain ⟨given, target⟩ := linked
  cases target with
  | none => exact Schema.read_rule_elsewhere elsewhere place given rule ran
  | some number =>
      obtain ⟨head, fields, readHead, inside, rfl⟩ := read_linked_ok ran
      simp only [readOne, shifted, Option.map_some, readLinked, RuleHead.read_elsewhere readHead,
        inner place elsewhere number fields inside]
      rfl

theorem read_rules_shifted
    (inner : ∀ place elsewhere number fields, read place number = .ok fields →
      other elsewhere (number + 1) = .ok fields)
    (place elsewhere : String) (rules : List (String × LinkedRule)) (schema : Schema)
    (ran : readRules read place rules = .ok schema) :
    readRules other elsewhere (shiftedRules rules) = .ok schema := by
  induction rules generalizing schema with
  | nil => exact ran
  | cons entry rest induction =>
      obtain ⟨key, linked⟩ := entry
      have named : key ≠ "" := by
        rintro rfl
        simp [readRules] at ran
      obtain ⟨rule, later, own, others, rfl⟩ := read_rules_ok ran
      rw [shiftedRules, List.map_cons, read_rules_cons named, read_one_shifted inner own]
      have rest := induction later others
      rw [shiftedRules] at rest
      rw [rest]
      rfl

end Shifted

/-- The new root leads to every mapping of the old graph by the same ways, so none of them is met
again that was not met again before. -/
theorem read_mapping_shifted (graph : SchemaGraph) (depth : Nat) (entered shiftedEntered : List Nat)
    (same : ∀ number, number + 1 ∈ shiftedEntered ↔ number ∈ entered) (place elsewhere : String)
    (number : Nat) (schema : Schema)
    (ran : graph.readMapping depth entered place number = .ok schema) :
    graph.ofElements.readMapping depth shiftedEntered elsewhere (number + 1) = .ok schema := by
  induction depth generalizing entered shiftedEntered place elsewhere number schema with
  | zero => cases ran
  | succ depth induction =>
      have fresh : number ∉ entered := by
        intro again
        rw [read_mapping_again again] at ran
        cases ran
      have freshShifted : number + 1 ∉ shiftedEntered := fun again => fresh ((same number).mp again)
      rw [read_mapping_fresh freshShifted, mapping_of_elements]
      apply read_rules_shifted _ place elsewhere _ schema (read_mapping_ok ran)
      intro place elsewhere inner fields inside
      apply induction (number :: entered) ((number + 1) :: shiftedEntered) _ place elsewhere inner
        fields inside
      intro other
      simp [same]

theorem read_of_elements {graph : SchemaGraph} {schema : Schema} (ran : graph.read = .ok schema) :
    graph.ofElements.read = .ok schema.ofElements := by
  have size : graph.ofElements.mappings.length = graph.mappings.length + 1 := by
    simp [ofElements]
  have inside := graph.read_mapping_shifted (graph.mappings.length + 1) [] [0] (by simp) "" "$" 0
    schema ran
  rw [read, size, read_mapping_fresh List.not_mem_nil]
  change readRules _ "" [("$", ⟨.mapping [("type", .text "array"), ("schema", .mapping [])],
    some 1⟩)] = _
  rw [read_rules_cons (by decide)]
  change (readLinked _ "$" _ 1).bind _ = _
  rw [readLinked, inside]
  rfl

end SchemaGraph

/-- A given schema as what is asked of the elements of an array. -/
def SchemaSource.ofElements : SchemaSource → SchemaSource
  | .declared given =>
      .declared (.mapping [("$", .mapping [("type", .text "array"), ("schema", given)])])
  | .linked graph => .linked graph.ofElements
  | .ready schema => .ready schema.ofElements

theorem Schema.reread_of_elements {schema given : Schema} (ran : given.reread = .ok schema) :
    given.ofElements.reread = .ok schema.ofElements := by
  have inside := reread_rules_elsewhere "$" "" given schema ran
  have named : "$" ≠ "" := by decide
  simp only [reread, ofElements, rereadRules, rereadRule, if_neg named, placeOf, if_true, inside]
  rfl

theorem Schema.read_of_elements {entries : List (String × Declaration)} {schema : Schema}
    (ran : Schema.read (.mapping entries) = .ok schema) :
    Schema.read (.mapping
      [("$", .mapping [("type", .text "array"), ("schema", .mapping entries)])]) =
        .ok schema.ofElements := by
  have inside := read_rules_elsewhere "$" "" entries schema ran
  have named : "$" ≠ "" := by decide
  have other : "type" ≠ "schema" := by decide
  simp only [Schema.read, readRules, readRule, readFields, if_neg named, if_neg other, placeOf,
    if_true, inside]
  rfl

theorem SchemaSource.read_of_elements {source : SchemaSource} {schema : Schema}
    (ran : source.read = .ok schema) : source.ofElements.read = .ok schema.ofElements := by
  cases source with
  | declared given =>
      cases given with
      | mapping entries => exact Schema.read_of_elements ran
      | _ => cases ran
  | linked graph => exact SchemaGraph.read_of_elements ran
  | ready given => exact Schema.reread_of_elements ran

end DocumentRules
