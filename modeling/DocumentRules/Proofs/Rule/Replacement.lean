import DocumentRules.Proofs.Rule.Changes
import DocumentRules.Proofs.Run.Alike

/-!
Schemas in which predicates are replaced. Only what stands behind callables changes, so a schema
is read like before: no part of reading looks at a predicate. Rules of what is read differ in
the predicates of their validations, and the tables of both schemas go along entry by entry.
-/

set_option autoImplicit false

namespace DocumentRules

open SchemaGraph (Tree)

/-- An entry of a declaration after predicates have been replaced, at any depth of mappings. -/
inductive Replaced (change : String → Predicate → Predicate → Prop) :
    String × Declaration → String × Declaration → Prop
  | kept (entry : String × Declaration) : Replaced change entry entry
  | inside (key : String) {entries others : Tree}
      (each : List.Forall₂ (Replaced change) entries others) :
      Replaced change (key, .mapping entries) (key, .mapping others)
  | predicate {name : String} {own other : Predicate} (changed : change name own other) :
      Replaced change (name, .callable own) (name, .callable other)

/-- A field that has been read after predicates have been replaced. -/
inductive Rule.Replaced (change : String → Predicate → Predicate → Prop) :
    String × Rule → String × Rule → Prop
  | kept (field : String × Rule) : Rule.Replaced change field field
  | rule (key : String) (tag : Option TypeTag) (allowNull enforced : Bool)
      {validation validationOther : Option Validation} {fields fieldsOther : Option Schema}
      (validated : Option.Rel (List.Forall₂ (DocumentRules.Replaced change)) validation
        validationOther)
      (inside : Option.Rel (List.Forall₂ (Rule.Replaced change)) fields fieldsOther) :
      Rule.Replaced change (key, ⟨tag, allowNull, validation, fields, enforced⟩)
        (key, ⟨tag, allowNull, validationOther, fieldsOther, enforced⟩)

variable {change : String → Predicate → Predicate → Prop}

theorem Rule.Replaced.key {own other : String × Rule} (replaced : Rule.Replaced change own other) :
    own.1 = other.1 := by
  cases replaced <;> rfl

theorem validation_replaced_refl (validation : Option Validation) :
    Option.Rel (List.Forall₂ (Replaced change)) validation validation :=
  Run.related_option (fun _ => List.forall₂_same.mpr fun entry _ => .kept entry) validation

namespace Replaced

theorem key {own other : String × Declaration} (replaced : Replaced change own other) :
    own.1 = other.1 := by
  cases replaced <;> rfl

/-- What is found under a key has been replaced at most. -/
theorem lookup {entries others : Tree} (each : List.Forall₂ (Replaced change) entries others)
    (key : String) :
    Option.Rel (fun given other => Replaced change (key, given) (key, other))
      (Datum.entry? key entries) (Datum.entry? key others) := by
  induction each with
  | nil => exact .none
  | @cons own fellow _ _ replaced _ induction =>
      obtain ⟨name, given⟩ := own
      obtain ⟨_, other⟩ := fellow
      obtain rfl := replaced.key
      rw [Datum.entry?, Datum.entry?]
      split
      · rename_i same
        exact .some (same ▸ replaced)
      · exact induction

theorem get_or_null {entries others : Tree} (each : List.Forall₂ (Replaced change) entries others)
    (key : String) :
    Replaced change (key, (Datum.mapping entries).getOrNull key)
      (key, (Datum.mapping others).getOrNull key) := by
  have found := lookup each key
  rw [Datum.getOrNull, Datum.getOrNull, Datum.get?, Datum.get?]
  generalize Datum.entry? key entries = given at found
  generalize Datum.entry? key others = other at found
  cases found with
  | none => exact .kept _
  | some replaced => exact replaced

theorem is_some {entries others : Tree} (each : List.Forall₂ (Replaced change) entries others)
    (key : String) :
    ((Datum.mapping entries).get? key).isSome = ((Datum.mapping others).get? key).isSome := by
  have found := lookup each key
  rw [Datum.get?, Datum.get?]
  generalize Datum.entry? key entries = given at found
  generalize Datum.entry? key others = other at found
  cases found <;> rfl

theorem holds {key : String} {given other : Declaration}
    (replaced : Replaced change (key, given) (key, other)) : given.holds = other.holds := by
  cases replaced with
  | kept => rfl
  | inside _ each => cases each <;> rfl
  | predicate changed => rfl

mutual

/-- As a plain value, what is under a key stays the same. -/
theorem plain : ∀ (key : String) (given other : Declaration),
    Replaced change (key, given) (key, other) → given.plain = other.plain
  | _, _, _, .kept _ => rfl
  | _, .mapping entries, .mapping others, .inside _ each =>
      congrArg Datum.mapping (plain_entries entries others each)
  | _, .callable _, .callable _, .predicate _ => rfl

theorem plain_entries : ∀ entries others : Tree, List.Forall₂ (Replaced change) entries others →
    Datum.relabelEntries (fun _ => ()) entries = Datum.relabelEntries (fun _ => ()) others
  | [], _, .nil => rfl
  | (key, given) :: rest, (keyOther, other) :: restOther, .cons own each => by
      obtain rfl : key = keyOther := own.key
      have same : given.relabel (fun _ => ()) = other.relabel fun _ => () :=
        plain key given other own
      rw [Datum.relabelEntries, Datum.relabelEntries, same, plain_entries rest restOther each]

end

end Replaced

/-! ## Reading -/

section Head

variable {place key : String} {given other : Declaration}

theorem read_tag_replaced (replaced : Replaced change (key, given) (key, other)) :
    RuleHead.readTag place given = RuleHead.readTag place other := by
  cases replaced <;> rfl

theorem read_has_fields_replaced (replaced : Replaced change (key, given) (key, other)) :
    RuleHead.readFields place given = RuleHead.readFields place other := by
  cases replaced <;> rfl

theorem read_validation_replaced (replaced : Replaced change (key, given) (key, other))
    {validation : Option Validation}
    (read : RuleHead.readValidation place given = .ok validation) :
    ∃ after, RuleHead.readValidation place other = .ok after ∧
      Option.Rel (List.Forall₂ (Replaced change)) validation after := by
  cases replaced with
  | kept => exact ⟨validation, read, validation_replaced_refl validation⟩
  | inside _ each =>
      cases read
      exact ⟨_, rfl, .some each⟩
  | predicate changed => cases read

theorem read_head_replaced (replaced : Replaced change (key, given) (key, other))
    {head : RuleHead} (read : RuleHead.read place given = .ok head) :
    ∃ validation, RuleHead.read place other = .ok { head with validation := validation } ∧
      Option.Rel (List.Forall₂ (Replaced change)) head.validation validation := by
  cases replaced with
  | kept => exact ⟨head.validation, read, validation_replaced_refl head.validation⟩
  | @inside _ entries others each =>
      have found := Replaced.get_or_null each
      obtain ⟨tag, validation, hasFields, allowNull, enforced⟩ := RuleHead.read_mapping_iff.mp read
      obtain ⟨after, readAfter, validated⟩ := read_validation_replaced (found "validate") validation
      refine ⟨after, RuleHead.read_mapping_iff.mpr ⟨?_, readAfter, ?_, ?_, ?_⟩, validated⟩
      · exact (read_tag_replaced (found "type")).symm.trans tag
      · exact (read_has_fields_replaced (found "schema")).symm.trans hasFields
      · exact allowNull.trans (found "allowNull").holds
      · simp only [enforced, Replaced.is_some each]
  | predicate changed => cases read

end Head

namespace Schema

theorem fields_replaced_refl (fields : Option Schema) :
    Option.Rel (List.Forall₂ (Rule.Replaced change)) fields fields :=
  Run.related_option (fun _ => List.forall₂_same.mpr fun field _ => .kept field) fields

theorem read_fields_later {place key : String} (other : key ≠ "schema") (given : Declaration)
    (rest : Tree) : readFields place ((key, given) :: rest) = readFields place rest := by
  cases given <;> simp only [readFields, if_neg other]

mutual

theorem read_rules_replaced : ∀ (place : String) (entries others : Tree) (schema : Schema),
    List.Forall₂ (Replaced change) entries others → readRules place entries = .ok schema →
      ∃ after, readRules place others = .ok after ∧
        List.Forall₂ (Rule.Replaced change) schema after
  | place, [], _, schema, .nil, read => by
      cases read
      exact ⟨[], rfl, .nil⟩
  | place, (key, given) :: rest, (keyOther, other) :: restOther, schema, .cons own each, read => by
      obtain ⟨named, rule, later, readOwn, readLater, rfl⟩ := read_rules_cons_iff.mp read
      obtain rfl : key = keyOther := own.key
      obtain ⟨ruleOther, readOther, replaced⟩ :=
        read_rule_replaced _ key given other rule own readOwn
      obtain ⟨after, readAfter, replacedLater⟩ :=
        read_rules_replaced place rest restOther later each readLater
      exact ⟨(key, ruleOther) :: after,
        read_rules_cons_iff.mpr ⟨named, ruleOther, after, readOther, readAfter, rfl⟩,
        .cons replaced replacedLater⟩

theorem read_rule_replaced : ∀ (place key : String) (given other : Declaration) (rule : Rule),
    Replaced change (key, given) (key, other) → readRule place given = .ok rule →
      ∃ after, readRule place other = .ok after ∧ Rule.Replaced change (key, rule) (key, after)
  | place, key, given, _, rule, .kept _, read => ⟨rule, read, .kept _⟩
  | place, key, .mapping entries, .mapping others, rule, .inside _ each, read => by
      rw [readRule] at read
      obtain ⟨head, readHead, read⟩ := Run.except_bind_ok read
      obtain ⟨fields, readFields, read⟩ := Run.except_bind_ok read
      cases read
      obtain ⟨validation, readOther, validated⟩ :=
        read_head_replaced (.inside key each) readHead
      obtain ⟨fieldsOther, readInside, inside⟩ :=
        read_fields_replaced place entries others fields each readFields
      refine ⟨_, ?_, .rule key head.tag head.allowNull head.enforced validated inside⟩
      rw [readRule, readOther, readInside]
      rfl

theorem read_fields_replaced : ∀ (place : String) (entries others : Tree)
    (fields : Option Schema), List.Forall₂ (Replaced change) entries others →
      readFields place entries = .ok fields →
      ∃ after, readFields place others = .ok after ∧
        Option.Rel (List.Forall₂ (Rule.Replaced change)) fields after
  | place, [], _, fields, .nil, read => by
      cases read
      exact ⟨none, rfl, .none⟩
  | place, (key, given) :: rest, (keyOther, other) :: restOther, fields, .cons own each, read => by
      obtain rfl : key = keyOther := own.key
      by_cases schema : key = "schema"
      · cases own with
        | kept =>
            refine ⟨fields, ?_, fields_replaced_refl fields⟩
            rw [← read]
            cases given <;> simp only [readFields, if_pos schema]
        | @inside _ entries others inner =>
            rw [readFields, if_pos schema] at read ⊢
            obtain ⟨inside, readInside, same⟩ := Run.except_map_ok read
            obtain ⟨after, readAfter, replaced⟩ :=
              read_rules_replaced place entries others inside inner readInside
            refine ⟨some after, ?_, same ▸ .some replaced⟩
            rw [readAfter]
            rfl
        | predicate changed =>
            refine ⟨fields, ?_, fields_replaced_refl fields⟩
            rw [← read]
            simp only [readFields, if_pos schema]
      · rw [read_fields_later schema] at read ⊢
        exact read_fields_replaced place rest restOther fields each read

end

/-- Fields keep their names when predicates are replaced. -/
theorem names_of_replaced_steps :
    Hereditary
      (fun fields => ∀ others, List.Forall₂ (Rule.Replaced change) fields others →
        HasNames fields → HasNames others)
      (fun rule => ∀ key other, Rule.Replaced change (key, rule) (key, other) →
        RuleHasNames rule → RuleHasNames other) where
  nil := by
    intro others each named
    cases each
    trivial
  cons := by
    intro key rule rest ofRule ofRest others each named
    cases each with
    | @cons _ other _ later own each =>
        obtain ⟨_, ruleOther⟩ := other
        obtain rfl := own.key
        exact ⟨named.1, ofRule key ruleOther own named.2.1, ofRest later each named.2.2⟩
  flat := by
    intro tag allowNull validation enforced key other replaced named
    cases replaced with
    | kept => exact named
    | rule _ _ _ _ _ inside =>
        cases inside
        trivial
  deep := by
    intro tag allowNull validation inner enforced ofInner key other replaced named
    cases replaced with
    | kept => exact named
    | rule _ _ _ _ _ inside =>
        cases inside with
        | some each => exact ofInner _ each named

end Schema

/-! ## Schemas that are handed over -/

/-- A rule of a graph after predicates have been replaced. It leads to where it led before. -/
inductive LinkedRule.Replaced (change : String → Predicate → Predicate → Prop) :
    String × LinkedRule → String × LinkedRule → Prop
  | rule {key : String} {given other : Declaration} (target : Option Nat)
      (replaced : DocumentRules.Replaced change (key, given) (key, other)) :
      LinkedRule.Replaced change (key, ⟨given, target⟩) (key, ⟨other, target⟩)

theorem LinkedRule.Replaced.key {own other : String × LinkedRule}
    (replaced : LinkedRule.Replaced change own other) : own.1 = other.1 := by
  cases replaced
  rfl

namespace SchemaGraph

theorem read_one_replaced {read readOther : String → Nat → Except Fault Schema}
    (follows : ∀ place number schema, read place number = .ok schema →
      ∃ after, readOther place number = .ok after ∧
        List.Forall₂ (Rule.Replaced change) schema after)
    {place key : String} {linked other : LinkedRule}
    (replaced : LinkedRule.Replaced change (key, linked) (key, other)) {rule : Rule}
    (ran : readOne read place linked = .ok rule) :
    ∃ after, readOne readOther place other = .ok after ∧
      Rule.Replaced change (key, rule) (key, after) := by
  cases replaced with
  | rule target replaced =>
      cases target with
      | none => exact Schema.read_rule_replaced place key _ _ rule replaced ran
      | some number =>
          obtain ⟨head, fields, readHead, inside, rfl⟩ := read_linked_ok ran
          obtain ⟨validation, readHeadOther, validated⟩ := read_head_replaced replaced readHead
          obtain ⟨after, readAfter, each⟩ := follows place number fields inside
          refine ⟨_, ?_, .rule key head.tag head.allowNull head.enforced validated (.some each)⟩
          simp only [readOne, readLinked, readHeadOther, readAfter]
          rfl

theorem read_rules_replaced {read readOther : String → Nat → Except Fault Schema}
    (follows : ∀ place number schema, read place number = .ok schema →
      ∃ after, readOther place number = .ok after ∧
        List.Forall₂ (Rule.Replaced change) schema after)
    {rules others : List (String × LinkedRule)}
    (each : List.Forall₂ (LinkedRule.Replaced change) rules others) {place : String}
    {schema : Schema} (ran : readRules read place rules = .ok schema) :
    ∃ after, readRules readOther place others = .ok after ∧
      List.Forall₂ (Rule.Replaced change) schema after := by
  induction each generalizing schema with
  | nil =>
      cases ran
      exact ⟨[], rfl, .nil⟩
  | @cons entry fellow _ _ own _ induction =>
      obtain ⟨key, linked⟩ := entry
      obtain ⟨_, other⟩ := fellow
      obtain rfl : key = _ := own.key
      have named : key ≠ "" := by
        rintro rfl
        simp [readRules] at ran
      obtain ⟨rule, later, readOwn, readLater, rfl⟩ := read_rules_ok ran
      obtain ⟨ruleOther, readOther, replaced⟩ := read_one_replaced follows own readOwn
      obtain ⟨after, readAfter, replacedLater⟩ := induction readLater
      refine ⟨(key, ruleOther) :: after, ?_, .cons replaced replacedLater⟩
      rw [read_rules_cons named, readOther, readAfter]
      rfl

theorem read_mapping_replaced {graph other : SchemaGraph}
    (each : List.Forall₂ (List.Forall₂ (LinkedRule.Replaced change)) graph.mappings other.mappings)
    (depth : Nat) (entered : List Nat) (place : String) (number : Nat) (schema : Schema)
    (ran : graph.readMapping depth entered place number = .ok schema) :
    ∃ after, other.readMapping depth entered place number = .ok after ∧
      List.Forall₂ (Rule.Replaced change) schema after := by
  induction depth generalizing entered place number schema with
  | zero => cases ran
  | succ depth induction =>
      rw [readMapping] at ran ⊢
      split at ran
      · cases ran
      · rename_i fresh
        rw [if_neg fresh]
        have rules : List.Forall₂ (LinkedRule.Replaced change) (graph.mapping number)
            (other.mapping number) := Run.related_at each .nil number
        exact read_rules_replaced (induction (number :: entered)) rules ran

end SchemaGraph

/-- Two schemas that are handed over in the same way and differ in predicates. -/
inductive SchemaSource.Replaced (change : String → Predicate → Predicate → Prop) :
    SchemaSource → SchemaSource → Prop
  | declared {fields others : Tree}
      (each : List.Forall₂ (DocumentRules.Replaced change) fields others) :
      SchemaSource.Replaced change (.declared (.mapping fields)) (.declared (.mapping others))
  | linked {graph other : SchemaGraph}
      (each : List.Forall₂ (List.Forall₂ (LinkedRule.Replaced change)) graph.mappings
        other.mappings) :
      SchemaSource.Replaced change (.linked graph) (.linked other)
  | ready {schema other : Schema} (each : List.Forall₂ (Rule.Replaced change) schema other) :
      SchemaSource.Replaced change (.ready schema) (.ready other)

/-- A schema can still be read, and what is read differs in predicates. -/
theorem SchemaSource.Replaced.read {source other : SchemaSource}
    (replaced : source.Replaced change other) {schema : Schema} (read : source.read = .ok schema) :
    ∃ after, other.read = .ok after ∧ List.Forall₂ (Rule.Replaced change) schema after := by
  cases replaced with
  | declared each => exact Schema.read_rules_replaced "" _ _ schema each read
  | @linked graph other each =>
      obtain ⟨after, readAfter, rules⟩ :=
        SchemaGraph.read_mapping_replaced each _ [] "" 0 schema read
      rw [each.length_eq] at readAfter
      exact ⟨after, readAfter, rules⟩
  | @ready rules others each =>
      have named := SchemaSource.names_of_read read
      obtain rfl := Schema.reread_same read
      exact ⟨others, Schema.reread_of_names
        (Schema.names_of_replaced_steps.fields _ others each named), each⟩

/-! ## Tables -/

/-- Apart from predicates and from the fields inside it, the second rule asks for the same. -/
structure Rule.AsksSame (change : String → Predicate → Predicate → Prop) (rule other : Rule) :
    Prop where
  tag : other.tag = rule.tag
  allowNull : other.allowNull = rule.allowNull
  validation : List.Forall₂ (DocumentRules.Replaced change) (rule.validation.getD [])
    (other.validation.getD [])

/-- An entry on the same path, whose rule asks for the same apart from predicates. -/
structure TableEntry.Replaced (change : String → Predicate → Predicate → Prop)
    (entry other : TableEntry) : Prop where
  path : other.path = entry.path
  rule : entry.rule.AsksSame change other.rule

theorem entries_replaced_refl (entries : List TableEntry) :
    List.Forall₂ (TableEntry.Replaced change) entries entries :=
  List.forall₂_same.mpr fun _ _ =>
    ⟨rfl, rfl, rfl, List.forall₂_same.mpr fun given _ => .kept given⟩

namespace Schema

theorem rule_table_replaced {tag : Option TypeTag} (allowNull enforced : Bool)
    {validation validationOther : Option Validation} {fields fieldsOther : Option Schema}
    (validated : Option.Rel (List.Forall₂ (DocumentRules.Replaced change)) validation
      validationOther) (path : Path)
    (inside : List.Forall₂ (TableEntry.Replaced change) (tableInside path tag fields)
      (tableInside path tag fieldsOther)) :
    List.Forall₂ (TableEntry.Replaced change)
      (ruleTable path ⟨tag, allowNull, validation, fields, enforced⟩)
      (ruleTable path ⟨tag, allowNull, validationOther, fieldsOther, enforced⟩) := by
  rw [rule_table_parts, rule_table_parts]
  apply List.rel_append inside
  cases enforced with
  | false => exact .nil
  | true =>
      refine .cons ⟨rfl, rfl, rfl, ?_⟩ .nil
      cases validated with
      | none => exact .nil
      | some each => exact each

theorem table_replaced_steps :
    Hereditary
      (fun fields => ∀ others, List.Forall₂ (Rule.Replaced change) fields others →
        ∀ origin, List.Forall₂ (TableEntry.Replaced change) (tableAt origin fields)
          (tableAt origin others))
      (fun rule => ∀ key other, Rule.Replaced change (key, rule) (key, other) →
        ∀ path, List.Forall₂ (TableEntry.Replaced change) (ruleTable path rule)
          (ruleTable path other)) where
  nil := by
    intro others each origin
    cases each
    exact .nil
  cons := by
    intro key rule rest ofRule ofRest others each origin
    cases each with
    | @cons _ other _ later own each =>
        obtain ⟨_, ruleOther⟩ := other
        obtain rfl := own.key
        rw [tableAt, tableAt]
        exact List.rel_append (ofRule key ruleOther own _) (ofRest later each origin)
  flat := by
    intro tag allowNull validation enforced key other replaced path
    cases replaced with
    | kept => exact entries_replaced_refl _
    | rule _ _ _ _ validated inside =>
        cases inside
        exact rule_table_replaced allowNull enforced validated path (entries_replaced_refl _)
  deep := by
    intro tag allowNull validation inner enforced ofInner key other replaced path
    cases replaced with
    | kept => exact entries_replaced_refl _
    | rule _ _ _ _ validated inside =>
        cases inside with
        | @some _ others each =>
            apply rule_table_replaced allowNull enforced validated path
            cases tag with
            | none => exact .nil
            | some tag =>
                cases tag with
                | object => exact ofInner others each path
                | array => exact ofInner others each (path ++ [.every])
                | _ => exact .nil

/-- The tables go along entry by entry. -/
theorem table_replaced {schema other : Schema}
    (each : List.Forall₂ (Rule.Replaced change) schema other) :
    List.Forall₂ (TableEntry.Replaced change) schema.table other.table :=
  table_replaced_steps.fields schema other each []

end Schema

end DocumentRules
