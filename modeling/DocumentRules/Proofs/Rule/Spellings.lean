import DocumentRules.Proofs.Path.Keys
import DocumentRules.Proofs.Rule.Elements

/-!
Two ways of declaring a field inside a container. The container can be a rule of its own
with a schema inside, or its key can be joined to the key of the field by a point, with a
pair of brackets in between where it is an array. The joined key spells the path that the
nesting builds up, so both give the same entries, and nesting adds that of the container.
-/

set_option autoImplicit false

namespace DocumentRules

inductive Container where
  | object
  | array

namespace Container

def tag : Container → TypeTag
  | object => .object
  | array => .array

/-- The path on which the fields inside a container at a path go on. -/
def insidePath : Container → Path → Path
  | object, path => path
  | array, path => path ++ [.every]

def insideKey : Container → String → String
  | object, key => key
  | array, key => key ++ "." ++ "[]"

/-- The key that leads straight to a field inside a container. A field whose key is a lone sign
for every element is the inside itself. -/
def joinedKey (container : Container) (key field : String) : String :=
  if field = "$" ∨ field = "[]" then container.insideKey key
  else container.insideKey key ++ "." ++ field

/-- A declared rule that asks for a container with one field inside. -/
def nesting (container : Container) (field : String) (given : Declaration) : Declaration :=
  .mapping [("type", .text container.tag.name), ("schema", .mapping [(field, given)])]

def nestingRule (container : Container) (field : String) (rule : Rule) : Rule :=
  ⟨some container.tag, false, none, some [(field, rule)], true⟩

end Container

namespace Path

theorem of_key_inside (container : Container) (key : String) :
    ofKey (container.insideKey key) = container.insidePath (ofKey key) := by
  cases container with
  | object => rfl
  | array =>
      have brackets : ofKey "[]" = [.every] := (of_key_every "[]").mpr (Or.inr rfl)
      rw [Container.insideKey, of_key_append, brackets]
      rfl

/-- Of the keys of a joined spelling only the container's own can be a lone sign. -/
theorem of_key_joined (container : Container) (key field : String) :
    ofKey (container.joinedKey key field) =
      container.insidePath (ofKey key) ++ ofField field := by
  rw [Container.joinedKey, ofField]
  by_cases lone : field = "$" ∨ field = "[]"
  · rw [if_pos lone, if_pos lone, of_key_inside, List.append_nil]
  · rw [if_neg lone, if_neg lone, of_key_append, of_key_inside]

theorem of_field_plain {key : String} (plain : key ≠ "$" ∧ key ≠ "[]") :
    ofField key = ofKey key := by
  rw [ofField, if_neg (not_or.mpr plain)]

/-- A joined key spells a single segment only if the container's own key does. -/
theorem of_key_of_joined (container : Container) {key field : String} {segment : Segment}
    (single : ofKey (container.joinedKey key field) = [segment]) : ofKey key = [segment] := by
  have nonempty := of_key_nonempty key
  rw [of_key_joined] at single
  cases container with
  | object =>
      rcases List.append_eq_singleton_iff.mp single with ⟨none, _⟩ | ⟨own, _⟩
      · exact absurd none nonempty
      · exact own
  | array =>
      have short := congrArg List.length single
      simp only [Container.insidePath, List.length_append, List.length_singleton] at short
      have long := List.length_pos_of_ne_nil nonempty
      omega

end Path

namespace Container

theorem inside_append (container : Container) (origin path : Path) :
    container.insidePath (origin ++ path) = origin ++ container.insidePath path := by
  cases container with
  | object => rfl
  | array => exact List.append_assoc origin path [.every]

theorem nesting_rule_table (container : Container) (path : Path) (field : String) (rule : Rule) :
    Schema.ruleTable path (container.nestingRule field rule) =
      Schema.tableAt (container.insidePath path) [(field, rule)] ++
        [⟨path, container.nestingRule field rule⟩] := by
  cases container with
  | object => rfl
  | array => rfl

/-- From wherever the fields start, the nested spelling lists what the joined one does and then
the container. -/
theorem nesting_table (container : Container) (origin : Path) {key : String}
    (plain : key ≠ "$" ∧ key ≠ "[]") (field : String) (rule : Rule) :
    Schema.tableAt origin [(key, container.nestingRule field rule)] =
      Schema.tableAt origin [(container.joinedKey key field, rule)] ++
        [⟨origin ++ Path.ofKey key, container.nestingRule field rule⟩] := by
  have nested : origin.extend key = origin ++ Path.ofKey key := by
    rw [Path.extend_of_field, Path.of_field_plain plain]
  -- A lone sign would be left out of the path, and the joined key is none.
  have several : Path.ofKey (container.joinedKey key field) ≠ [.every] := fun every =>
    (not_or.mpr plain) ((Path.of_key_every key).mp (Path.of_key_of_joined container every))
  have joined : origin.extend (container.joinedKey key field) =
      container.insidePath (origin ++ Path.ofKey key) ++ Path.ofField field := by
    rw [Path.extend, if_neg several, Path.of_key_joined, inside_append, List.append_assoc]
  simp only [Schema.tableAt, List.append_nil]
  rw [nested, joined, nesting_rule_table]
  simp only [Schema.tableAt, List.append_nil, Path.extend_of_field]

end Container

section Reading

variable {place other key field : String} {given : Declaration} {rule : Rule}

theorem Schema.read_single (named : key ≠ "") (readable : readRule other given = .ok rule) :
    readRules place [(key, given)] = .ok [(key, rule)] := by
  rw [readRules, if_neg named, read_rule_elsewhere _ other given rule readable]
  rfl

theorem Container.read_nesting (container : Container) (named : field ≠ "")
    (readable : Schema.readRule other given = .ok rule) :
    Schema.readRule place (container.nesting field given) =
      .ok (container.nestingRule field rule) := by
  have inside : Schema.readFields place
      [("type", .text container.tag.name), ("schema", .mapping [(field, given)])] =
        .ok (some [(field, rule)]) := by
    have other : "type" ≠ "schema" := by decide
    simp only [Schema.readFields, if_neg other, if_true, Schema.read_single named readable]
    rfl
  rw [nesting, Schema.readRule, inside]
  cases container with
  | object => rfl
  | array => rfl

theorem Container.joined_key_named (container : Container) (named : key ≠ "") :
    container.joinedKey key field ≠ "" := by
  intro empty
  have nameless : Path.ofKey (container.joinedKey key field) = [.field ""] := by
    rw [empty]
    rfl
  exact named (Path.of_key_empty_name (Path.of_key_of_joined container nameless))

end Reading

/-- A field that is declared inside a container rule gives the table that it gives under the
joined key, followed by the one entry of the container. -/
theorem Container.nested_table_eq_joined (container : Container) {key field : String}
    (named : key ≠ "") (plain : key ≠ "$" ∧ key ≠ "[]") (fieldNamed : field ≠ "")
    {place : String} {given : Declaration} {rule : Rule}
    (readable : Schema.readRule place given = .ok rule) :
    ∃ entries,
      (SchemaSource.declared (.mapping [(container.joinedKey key field, given)])).table =
          .ok entries ∧
        (SchemaSource.declared (.mapping [(key, container.nesting field given)])).table =
          .ok (entries ++ [⟨Path.ofKey key, container.nestingRule field rule⟩]) := by
  refine ⟨Schema.tableAt [] [(container.joinedKey key field, rule)], ?_, ?_⟩
  · have joined : Schema.readRules "" [(container.joinedKey key field, given)] =
        .ok [(container.joinedKey key field, rule)] :=
      Schema.read_single (container.joined_key_named named) readable
    rw [SchemaSource.table, SchemaSource.read, Schema.read, joined]
    rfl
  · have own : Schema.readRule place (container.nesting field given) =
        .ok (container.nestingRule field rule) := container.read_nesting fieldNamed readable
    have nested : Schema.readRules "" [(key, container.nesting field given)] =
        .ok [(key, container.nestingRule field rule)] := Schema.read_single named own
    have split := container.nesting_table [] plain field rule
    rw [SchemaSource.table, SchemaSource.read, Schema.read, nested]
    exact congrArg Except.ok split

/-- A seat of a row: an object with a number in it. -/
def seat : Declaration :=
  .mapping
    [("type", .text "object"),
     ("schema", .mapping [("$", .mapping [("allowNull", .bool true)]),
       ("no", .mapping [("type", .text "integer")])])]

def seatRule : Rule :=
  ⟨some .object, false, none,
    some [("$", ⟨none, true, none, none, true⟩),
      ("no", ⟨some .integer, false, none, none, true⟩)], true⟩

/-- Signs for every element and empty names inside both keys. -/
theorem seats_table_joined :
    ("rows.$" ≠ "" ∧ ("rows.$" ≠ "$" ∧ "rows.$" ≠ "[]") ∧ "seat..left" ≠ "" ∧
        Schema.readRule "" seat = .ok seatRule) ∧
      ∃ entries,
        (SchemaSource.declared (.mapping [("rows.$.[].seat..left", seat)])).table = .ok entries ∧
          (SchemaSource.declared
            (.mapping [("rows.$", Container.array.nesting "seat..left" seat)])).table =
            .ok (entries ++
              [⟨[.field "rows", .every], Container.array.nestingRule "seat..left" seatRule⟩]) ∧
          entries.map TableEntry.key =
            ["rows.[].[].seat..left", "rows.[].[].seat..left.no", "rows.[].[].seat..left"] := by
  have named : "rows.$" ≠ "" := by decide
  have plain : "rows.$" ≠ "$" ∧ "rows.$" ≠ "[]" := by decide
  have fieldNamed : "seat..left" ≠ "" := by decide
  have readable : Schema.readRule "" seat = .ok seatRule := rfl
  obtain ⟨entries, joined, nested⟩ :=
    Container.array.nested_table_eq_joined named plain fieldNamed readable
  refine ⟨⟨named, plain, fieldNamed, readable⟩, entries, joined, nested, ?_⟩
  cases joined
  rfl

def wholeNumber : Declaration := .mapping [("type", .text "integer")]

/-- A container rule has to have a name of its own, which the joined key does not ask for. -/
theorem nameless_container_refused :
    (("" ≠ "$" ∧ "" ≠ "[]") ∧ "no" ≠ "") ∧
      (SchemaSource.declared
        (.mapping [(Container.object.joinedKey "" "no", wholeNumber)])).table =
          .ok [⟨[.field "", .field "no"], ⟨some .integer, false, none, none, true⟩⟩] ∧
      (SchemaSource.declared (.mapping [("", Container.object.nesting "no" wholeNumber)])).table =
        .error (.schema (.emptyKey "")) := by
  refine ⟨by decide, ?_, ?_⟩
  · rfl
  · rfl

end DocumentRules
