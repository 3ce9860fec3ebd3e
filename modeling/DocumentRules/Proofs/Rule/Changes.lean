import DocumentRules.Check
import DocumentRules.Proofs.Rule.Graphs
import DocumentRules.Proofs.Rule.Rereading

/-!
Schemas that differ by changes of their fields. A kind of change is a relation between the
fields of one schema before and after it; it can be made in a schema and in all schemas inside
it, any number of times. If reading follows a kind of change where it is made, it follows it in
whole schemas, however they are handed over. And a relation between tables that a kind of
change brings about where it is made holds between the tables of the wholes, if it can be
composed and does not look at the fields inside a rule.
-/

set_option autoImplicit false

namespace DocumentRules

open SchemaGraph (Tree)

namespace RuleHead

theorem read_mapping_iff {place : String} {entries : Tree} {head : RuleHead} :
    RuleHead.read place (.mapping entries) = .ok head ↔
      readTag place ((Datum.mapping entries).getOrNull "type") = .ok head.tag ∧
        readValidation place ((Datum.mapping entries).getOrNull "validate") =
          .ok head.validation ∧
        readFields place ((Datum.mapping entries).getOrNull "schema") = .ok head.hasFields ∧
        head.allowNull = ((Datum.mapping entries).getOrNull "allowNull").holds ∧
        head.enforced = ["validate", "type", "allowNull"].any fun key =>
          ((Datum.mapping entries).get? key).isSome := by
  constructor
  · intro read
    obtain ⟨tag, readTag, read⟩ := Run.except_bind_ok read
    obtain ⟨validation, readValidation, read⟩ := Run.except_bind_ok read
    obtain ⟨hasFields, readFields, read⟩ := Run.except_bind_ok read
    cases read
    exact ⟨readTag, readValidation, readFields, rfl, rfl⟩
  · obtain ⟨tag, allowNull, validation, hasFields, enforced⟩ := head
    rintro ⟨readTag, readValidation, readFields, rfl, rfl⟩
    simp only [RuleHead.read, readTag, readValidation, readFields]
    rfl

end RuleHead

namespace Schema

/-- A declared schema after changes of its fields and of fields inside it. -/
inductive Redeclared (change : Tree → Tree → Prop) : Tree → Tree → Prop
  | same (fields : Tree) : Redeclared change fields fields
  | here {fields others : Tree} (changed : change fields others) : Redeclared change fields others
  | later (field : String × Declaration) {rest others : Tree}
      (changed : Redeclared change rest others) :
      Redeclared change (field :: rest) (field :: others)
  | inside (key : String) {own inner others : Tree} (rest : Tree)
      (found : Datum.entry? "schema" own = some (.mapping inner))
      (changed : Redeclared change inner others) :
      Redeclared change ((key, .mapping own) :: rest)
        ((key, .mapping (Datum.insertEntry "schema" (.mapping others) own)) :: rest)
  | steps {first second third : Tree} (one : Redeclared change first second)
      (more : Redeclared change second third) : Redeclared change first third

/-- A schema that has been read, after changes of its fields and of fields inside it. -/
inductive Changed (change : Schema → Schema → Prop) : Schema → Schema → Prop
  | same (fields : Schema) : Changed change fields fields
  | here {fields others : Schema} (changed : change fields others) : Changed change fields others
  | later (field : String × Rule) {rest others : Schema} (changed : Changed change rest others) :
      Changed change (field :: rest) (field :: others)
  | inside (key : String) (tag : Option TypeTag) (allowNull : Bool)
      (validation : Option Validation) (enforced : Bool) {inner others : Schema} (rest : Schema)
      (changed : Changed change inner others) :
      Changed change ((key, ⟨tag, allowNull, validation, some inner, enforced⟩) :: rest)
        ((key, ⟨tag, allowNull, validation, some others, enforced⟩) :: rest)
  | steps {first second third : Schema} (one : Changed change first second)
      (more : Changed change second third) : Changed change first third

/-! ## Reading -/

theorem read_rules_cons_iff {place key : String} {given : Declaration} {rest : Tree}
    {schema : Schema} :
    readRules place ((key, given) :: rest) = .ok schema ↔
      key ≠ "" ∧ ∃ rule later, readRule (placeOf place key) given = .ok rule ∧
        readRules place rest = .ok later ∧ schema = (key, rule) :: later := by
  constructor
  · intro read
    by_cases nameless : key = ""
    · simp [readRules, nameless] at read
    · rw [readRules, if_neg nameless] at read
      obtain ⟨rule, own, read⟩ := Run.except_bind_ok read
      obtain ⟨later, others, read⟩ := Run.except_bind_ok read
      exact ⟨nameless, rule, later, own, others, (Except.ok.inj read).symm⟩
  · rintro ⟨named, rule, later, own, others, rfl⟩
    rw [readRules, if_neg named, own, others]
    rfl

theorem read_fields_of_entry (place : String) {own inner : Tree}
    (found : Datum.entry? "schema" own = some (.mapping inner)) :
    readFields place own = (readRules place inner).map some := by
  induction own with
  | nil => cases found
  | cons entry rest induction =>
      obtain ⟨key, given⟩ := entry
      rw [Datum.entry?] at found
      by_cases same : key = "schema"
      · rw [if_pos same] at found
        cases found
        rw [readFields, if_pos same]
      · rw [if_neg same] at found
        cases given <;> simpa only [readFields, if_neg same] using induction found

/-- A rule with a schema is read part by part: its head and its schema. -/
theorem read_rule_parts {place : String} {own inner : Tree} {rule : Rule}
    (found : Datum.entry? "schema" own = some (.mapping inner))
    (read : readRule place (.mapping own) = .ok rule) :
    ∃ head fields, RuleHead.read place (.mapping own) = .ok head ∧
      readRules place inner = .ok fields ∧ rule = head.toRule (some fields) := by
  rw [readRule, read_fields_of_entry place found] at read
  obtain ⟨head, readHead, read⟩ := Run.except_bind_ok read
  obtain ⟨fields, readInner, read⟩ := Run.except_bind_ok read
  cases inside : readRules place inner with
  | error fault =>
      rw [inside] at readInner
      cases readInner
  | ok schema =>
      rw [inside] at readInner
      cases readInner
      exact ⟨head, schema, readHead, rfl, (Except.ok.inj read).symm⟩

/-- Fields that can be read can still be read after a change, and what is read has changed. -/
def ReadingFollows (declared : Tree → Tree → Prop) (read : Schema → Schema → Prop) : Prop :=
  ∀ place fields others schema, declared fields others → readRules place fields = .ok schema →
    ∃ after, readRules place others = .ok after ∧ read schema after

theorem Redeclared.read {declared : Tree → Tree → Prop} {change : Schema → Schema → Prop}
    (follows : ReadingFollows declared change) {fields others : Tree}
    (changed : Redeclared declared fields others) (place : String) {schema : Schema}
    (read : readRules place fields = .ok schema) :
    ∃ after, readRules place others = .ok after ∧ Changed change schema after := by
  induction changed generalizing place schema with
  | same fields => exact ⟨schema, read, .same schema⟩
  | here changed =>
      obtain ⟨after, readAfter, ready⟩ := follows place _ _ schema changed read
      exact ⟨after, readAfter, .here ready⟩
  | later field changed induction =>
      obtain ⟨named, rule, rest, own, readRest, rfl⟩ := read_rules_cons_iff.mp read
      obtain ⟨after, readAfter, ready⟩ := induction _ readRest
      exact ⟨(field.1, rule) :: after,
        read_rules_cons_iff.mpr ⟨named, rule, after, own, readAfter, rfl⟩, .later _ ready⟩
  | inside key rest found changed induction =>
      obtain ⟨named, rule, later, own, readRest, rfl⟩ := read_rules_cons_iff.mp read
      obtain ⟨head, fields, readHead, readInner, rfl⟩ := read_rule_parts found own
      obtain ⟨after, readAfter, ready⟩ := induction _ readInner
      have built := SchemaGraph.read_rule_with_tree readHead readAfter
      exact ⟨(key, head.toRule (some after)) :: later,
        read_rules_cons_iff.mpr ⟨named, _, later, built, readRest, rfl⟩,
        .inside key _ _ _ _ later ready⟩
  | steps one more first second =>
      obtain ⟨middle, readMiddle, readyMiddle⟩ := first _ read
      obtain ⟨after, readAfter, ready⟩ := second _ readMiddle
      exact ⟨after, readAfter, .steps readyMiddle ready⟩

/-- Reading again gives what was there or a fault. -/
theorem reread_same_steps :
    Hereditary
      (fun fields => ∀ place again, rereadRules place fields = .ok again → again = fields)
      (fun rule => ∀ place again, rereadRule place rule = .ok again → again = rule) where
  nil := by
    intro place again read
    cases read
    rfl
  cons := by
    intro key rule rest ofRule ofRest place again read
    by_cases nameless : key = ""
    · simp [rereadRules, nameless] at read
    · rw [rereadRules, if_neg nameless] at read
      obtain ⟨own, readOwn, read⟩ := Run.except_bind_ok read
      obtain ⟨later, readLater, read⟩ := Run.except_bind_ok read
      cases read
      rw [ofRule _ own readOwn, ofRest place later readLater]
  flat := by
    intro tag allowNull validation enforced place again read
    cases read
    rfl
  deep := by
    intro tag allowNull validation inner enforced ofInner place again read
    rw [rereadRule] at read
    obtain ⟨own, readOwn, read⟩ := Run.except_bind_ok read
    cases read
    rw [ofInner place own readOwn]

theorem reread_same {schema again : Schema} (read : schema.reread = .ok again) : again = schema :=
  reread_same_steps.fields schema "" again read

end Schema

/-- Two schemas that are handed over in the same way and differ by changes of their fields. Linked
schemas are compared unfolded. -/
inductive SchemaSource.Changed (declared : Tree → Tree → Prop) (ready : Schema → Schema → Prop) :
    SchemaSource → SchemaSource → Prop
  | declared {fields others : Tree} (changed : Schema.Redeclared declared fields others) :
      Changed declared ready (.declared (.mapping fields)) (.declared (.mapping others))
  | linked {graph other : SchemaGraph} {fields others : Tree} (unfolds : graph.Unfolds 0 fields)
      (unfoldsOther : other.Unfolds 0 others)
      (changed : Schema.Redeclared declared fields others) :
      Changed declared ready (.linked graph) (.linked other)
  | ready {schema other : Schema} (changed : Schema.Changed ready schema other) :
      Changed declared ready (.ready schema) (.ready other)

theorem SchemaGraph.read_unfolded {graph : SchemaGraph} {fields : Tree} {schema : Schema}
    (unfolds : graph.Unfolds 0 fields) (read : graph.read = .ok schema) :
    Schema.readRules "" fields = .ok schema := by
  obtain ⟨tree, unfolded, readTree⟩ := graph.tree_of_read _ [] "" 0 schema read
  rwa [graph.unfolds_unique unfolds ⟨_, unfolded⟩]

theorem SchemaSource.Changed.read {declared : Tree → Tree → Prop}
    {change : Schema → Schema → Prop} (follows : Schema.ReadingFollows declared change)
    {source other : SchemaSource} (changed : source.Changed declared change other)
    {schema after : Schema} (read : source.read = .ok schema) (readOther : other.read = .ok after) :
    Schema.Changed change schema after := by
  cases changed with
  | declared changed =>
      obtain ⟨own, readOwn, ready⟩ := changed.read follows "" read
      cases readOwn.symm.trans readOther
      exact ready
  | linked unfolds unfoldsOther changed =>
      have unfolded := SchemaGraph.read_unfolded unfolds read
      obtain ⟨own, readOwn, ready⟩ := changed.read follows "" unfolded
      cases readOwn.symm.trans (SchemaGraph.read_unfolded unfoldsOther readOther)
      exact ready
  | ready changed =>
      rw [Schema.reread_same read, Schema.reread_same readOther]
      exact changed

/-! ## Tables -/

/-- A relation between tables that does not look at the fields inside a rule and that can be
composed, one table after the other and one change after the other. -/
structure TableRelation (relates : List TableEntry → List TableEntry → Prop) : Prop where
  same : ∀ entries, relates entries entries
  steps : ∀ {first second third}, relates first second → relates second third →
    relates first third
  append : ∀ {first firstOther second secondOther}, relates first firstOther →
    relates second secondOther → relates (first ++ second) (firstOther ++ secondOther)
  own : ∀ path tag allowNull validation inner others enforced,
    relates [⟨path, tag, allowNull, validation, some inner, enforced⟩]
      [⟨path, tag, allowNull, validation, some others, enforced⟩]

namespace Schema

/-- The entries of the fields inside a rule. -/
def tableInside (path : Path) (tag : Option TypeTag) (fields : Option Schema) :
    List TableEntry :=
  match tag, fields with
  | some .object, some inner => tableAt path inner
  | some .array, some inner => tableAt (path ++ [.every]) inner
  | _, _ => []

theorem rule_table_parts (path : Path) (rule : Rule) :
    ruleTable path rule =
      tableInside path rule.tag rule.fields ++ if rule.enforced then [⟨path, rule⟩] else [] := by
  obtain ⟨tag, allowNull, validation, fields, enforced⟩ := rule
  rw [ruleTable.eq_def]
  rfl

/-- The table of a rule changes with the fields inside it. -/
theorem rule_table_inside {relates : List TableEntry → List TableEntry → Prop}
    (relation : TableRelation relates) (tag : Option TypeTag) (allowNull : Bool)
    (validation : Option Validation) (enforced : Bool) {inner others : Schema}
    (inside : ∀ origin, relates (tableAt origin inner) (tableAt origin others)) (path : Path) :
    relates (ruleTable path ⟨tag, allowNull, validation, some inner, enforced⟩)
      (ruleTable path ⟨tag, allowNull, validation, some others, enforced⟩) := by
  rw [rule_table_parts, rule_table_parts]
  apply relation.append
  · cases tag with
    | none => exact relation.same []
    | some tag =>
        cases tag with
        | object => exact inside path
        | array => exact inside (path ++ [.every])
        | _ => exact relation.same []
  · cases enforced with
    | false => exact relation.same []
    | true => exact relation.own path tag allowNull validation inner others true

theorem Changed.table {change : Schema → Schema → Prop}
    {relates : List TableEntry → List TableEntry → Prop} (relation : TableRelation relates)
    (made : ∀ fields others, change fields others →
      ∀ origin, relates (tableAt origin fields) (tableAt origin others))
    {schema other : Schema} (changed : Changed change schema other) (origin : Path) :
    relates (tableAt origin schema) (tableAt origin other) := by
  induction changed generalizing origin with
  | same fields => exact relation.same _
  | here changed => exact made _ _ changed origin
  | later field changed induction =>
      rw [tableAt, tableAt]
      exact relation.append (relation.same _) (induction origin)
  | inside key tag allowNull validation enforced rest changed induction =>
      rw [tableAt, tableAt]
      exact relation.append (rule_table_inside relation tag allowNull validation enforced
        induction _) (relation.same _)
  | steps one more first second => exact relation.steps (first origin) (second origin)

end Schema

end DocumentRules
