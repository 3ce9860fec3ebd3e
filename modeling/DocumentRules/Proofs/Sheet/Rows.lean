import DocumentRules.Proofs.Rule.Elements
import DocumentRules.Proofs.Rule.Interpretation
import DocumentRules.Sheet

/-!
A sheet and the list of its rows. The rows of a sheet are checked one after the other
against one table, and each finds what checking it alone at its own place would find. The
list of the rows can be checked in one piece against the schema of an array whose elements
are rows; that goes rule by rule instead of row by row, and finds the same violations in
another order. A fault in the check of some field stops both or neither.
-/

set_option autoImplicit false

namespace DocumentRules

namespace Run

variable {α β : Type}

theorem flat_map_congr {items : List β} {left right : β → Run (List α)}
    (same : ∀ item ∈ items, left item = right item) : flatMap items left = flatMap items right :=
  congrArg appended (List.map_congr_left same)

end Run

namespace Sheet

/-- The checks of all rows, each row at the place of its number. -/
def rowChecks (records : List Value) (schema : Schema) : List LocatedCheck :=
  (Walk.numbered 0 records).flatMap fun (position, record) =>
    schema.checks record [.index position]

theorem mem_of_numbered {records : List Value} {row : Int × Value}
    (member : row ∈ Walk.numbered 0 records) : row.2 ∈ records := by
  rw [← Path.numbered_items 0 records]
  exact List.mem_map_of_mem member

theorem table_of_read {source : SchemaSource} {schema : Schema} (read : source.read = .ok schema) :
    tableOf source = .ok schema.table := by
  rw [tableOf, SchemaSource.mapping_of_read read, SchemaSource.table, read]
  rfl

/-- Every row finds what it would find alone. -/
theorem check_records_rows {records : List Value} {source : SchemaSource} {schema : Schema}
    (rows : ∀ record ∈ records, ∃ entries, record = .mapping entries)
    (read : source.read = .ok schema) (registry : Option Registry) :
    checkRecords records source registry =
      Run.flatMap (Walk.numbered 0 records) fun (position, record) =>
        DocumentRules.check record source registry [.index position] := by
  rw [checkRecords, table_of_read read]
  refine (Run.bind_pure schema.table _).trans ?_
  apply Run.flat_map_congr
  intro row member
  obtain ⟨entries, mapping⟩ := rows row.2 (mem_of_numbered member)
  have container : row.2.isContainer = true := by
    rw [mapping]
    rfl
  change _ = DocumentRules.check row.2 source registry [.index row.1]
  rw [DocumentRules.check, SchemaSource.table_for_of_read container read]
  exact (Run.bind_pure schema.table (Walk.table (knownTo registry) row.2 [.index row.1])).symm

theorem check_records_located {records : List Value} {source : SchemaSource} {schema : Schema}
    (read : source.read = .ok schema) (registry : Option Registry) :
    checkRecords records source registry =
      Run.flatMap
        ((Walk.numbered 0 records).flatMap fun (position, record) =>
          TableEntry.locatedChecks record [.index position] schema.table)
        (LocatedCheck.found (knownTo registry)) := by
  rw [checkRecords, table_of_read read, Run.flat_map_flat_map]
  refine (Run.bind_pure schema.table _).trans ?_
  apply congrArg (Run.flatMap (Walk.numbered 0 records))
  funext row
  exact Walk.table_checks (knownTo registry) row.2 [.index row.1] schema.table

theorem row_checks_perm (records : List Value) (schema : Schema) :
    ((Walk.numbered 0 records).flatMap fun (position, record) =>
      TableEntry.locatedChecks record [.index position] schema.table).Perm
        (rowChecks records schema) := by
  apply List.Perm.flatMap_left
  intro row _
  exact schema.located_checks_perm row.2 [.index row.1]

/-- The check that the rows are an array at all. -/
def wholeCheck (records : List Value) (schema : Schema) : LocatedCheck :=
  ⟨[], .list records, some .array, false, none, some schema, true⟩

theorem whole_check_finds_nothing (words : Vocabulary) (records : List Value)
    (schema : Schema) : (wholeCheck records schema).found words = Run.pure [] := rfl

theorem element_checks (records : List Value) (schema : Schema) :
    schema.ofElements.checks (.list records) [] =
      rowChecks records schema ++ [wholeCheck records schema] := by
  have container : Path.ofField "$" = [] := by decide
  simp only [Schema.checks, Schema.ofElements, Schema.fieldChecks, container, Path.places,
    List.flatMap_singleton, Schema.ruleChecks, List.nil_append, List.append_nil, if_true]
  rfl

theorem check_elements_located {records : List Value} {source : SchemaSource} {schema : Schema}
    (read : source.read = .ok schema) (registry : Option Registry) :
    DocumentRules.check (.list records) source.ofElements registry [] =
      Run.flatMap (TableEntry.locatedChecks (.list records) [] schema.ofElements.table)
        (LocatedCheck.found (knownTo registry)) :=
  check_of_read rfl (SchemaSource.read_of_elements read) registry []

theorem element_checks_perm (records : List Value) (schema : Schema) :
    (TableEntry.locatedChecks (.list records) [] schema.ofElements.table).Perm
      (rowChecks records schema ++ [wholeCheck records schema]) := by
  rw [← element_checks]
  exact schema.ofElements.located_checks_perm (.list records) []

/-- Checking the rows one by one gives the violations of each row at the place of its number, row
after row. Checking their list as an array gives the same violations in some order; or the check
of some field ends in a fault, and then neither returns. -/
theorem check_rows_permutes_elements (records : List Value) (source : SchemaSource)
    (schema : Schema) (registry : Option Registry)
    (rows : ∀ record ∈ records, ∃ entries, record = .mapping entries)
    (read : source.read = .ok schema) :
    (∀ (sheet : Sheet) (rules : CellRules), sheet.records rules = records →
        sheet.check rules source registry =
          Run.flatMap (Walk.numbered 0 records) fun (position, record) =>
            DocumentRules.check record source registry [.index position]) ∧
      checkRecords records source registry =
        (Run.flatMap (Walk.numbered 0 records) fun (position, record) =>
          DocumentRules.check record source registry [.index position]) ∧
      (((∀ located ∈ rowChecks records schema, (located.outcome (knownTo registry)).Succeeds) ∧
          ∃ found elements, (checkRecords records source registry).outcome = .ok found ∧
            (DocumentRules.check (.list records) source.ofElements registry []).outcome =
              .ok elements ∧
            found.Perm elements) ∨
        ((∃ located ∈ rowChecks records schema,
            ¬(located.outcome (knownTo registry)).Succeeds) ∧
          ¬(checkRecords records source registry).Succeeds ∧
          ¬(DocumentRules.check (.list records) source.ofElements registry []).Succeeds)) := by
  have byRows := check_records_rows rows read registry
  refine ⟨?_, byRows, ?_⟩
  · intro sheet rules same
    rw [Sheet.check, same, byRows]
  have rowsPerm := row_checks_perm records schema
  have elementsPerm := element_checks_perm records schema
  rw [check_records_located read, check_elements_located read, Run.succeeds_flat_map,
    Run.succeeds_flat_map]
  simp only [LocatedCheck.found_succeeds]
  by_cases all : ∀ located ∈ rowChecks records schema,
      (located.outcome (knownTo registry)).Succeeds
  · left
    refine ⟨all, ?_⟩
    have succeeds : (Run.flatMap (rowChecks records schema)
        (LocatedCheck.found (knownTo registry))).Succeeds := by
      simpa only [Run.succeeds_flat_map, LocatedCheck.found_succeeds] using all
    obtain ⟨expected, ran⟩ := succeeds
    obtain ⟨found, checked, sameRows⟩ := Run.flat_map_perm rowsPerm.symm _ ran
    have whole : (Run.flatMap (rowChecks records schema ++ [wholeCheck records schema])
        (LocatedCheck.found (knownTo registry))).outcome = .ok expected := by
      rw [Run.flat_map_append, Run.flat_map_single, whole_check_finds_nothing, Run.bind_ok_iff]
      refine ⟨expected, ran, ?_⟩
      rw [Run.bind_pure, List.append_nil]
      rfl
    obtain ⟨elements, checkedElements, sameElements⟩ := Run.flat_map_perm elementsPerm.symm _ whole
    exact ⟨found, elements, checked, checkedElements, sameRows.symm.trans sameElements⟩
  · right
    refine ⟨by simpa using all, ?_, ?_⟩
    · intro returns
      exact all fun located member => returns located (rowsPerm.mem_iff.mpr member)
    · intro returns
      exact all fun located member => returns located
        (elementsPerm.mem_iff.mpr (List.mem_append_left _ member))

theorem records_mappings (sheet : Sheet) (rules : CellRules) :
    ∀ record ∈ sheet.records rules, ∃ entries, record = .mapping entries := by
  intro record member
  obtain ⟨number, _, same⟩ := List.mem_map.mp member
  exact ⟨_, same.symm⟩

/-- Two rows, with lists in the cells of a column and a name that is missing. -/
def register : Sheet where
  columns :=
    [("name", [.text "Ada", .null]),
     ("marks", [.list [.integer 1, .text "x"], .list []])]

/-- Columns of texts and lists stay as they are, and only null is missing there. -/
def plainCells : CellRules where
  convert cells := cells
  isMissing := Datum.isNull

def registerRules : Declaration :=
  .mapping
    [("$", .mapping [("validate", .mapping [("allowedKeys", .list [.text "name"])])]),
     ("name", .mapping [("type", .text "string")]),
     ("marks", .mapping
       [("type", .text "array"),
        ("schema", .mapping [("$", .mapping [("type", .text "integer")])])])]

def registerSchema : Schema :=
  [("$", ⟨none, false, some [("allowedKeys", .list [.text "name"])], none, true⟩),
   ("name", ⟨some .string, false, none, none, true⟩),
   ("marks", ⟨some .array, false, none, some [("$", ⟨some .integer, false, none, none, true⟩)],
     true⟩)]

/-- Rows are gone through one by one, or the rules are: the paths come in different orders. -/
theorem register_rows_permute :
    (∀ record ∈ register.records plainCells, ∃ entries, record = .mapping entries) ∧
      (SchemaSource.declared registerRules).read = .ok registerSchema ∧
      ∃ found elements,
        (register.check plainCells (.declared registerRules) none).outcome = .ok found ∧
        (DocumentRules.check (.list (register.records plainCells))
          (SchemaSource.declared registerRules).ofElements none []).outcome = .ok elements ∧
        found.map Violation.path = [.text "0", .text "0.marks.1", .text "1", .text "1.name"] ∧
        elements.map Violation.path = [.text "0", .text "1", .text "1.name", .text "0.marks.1"] ∧
        found.Perm elements := by
  have mappings := register.records_mappings plainCells
  refine ⟨mappings, rfl, ?_⟩
  obtain ⟨bySheet, byRows, outcome⟩ :=
    check_rows_permutes_elements (register.records plainCells) (.declared registerRules)
      registerSchema none mappings rfl
  rcases outcome with ⟨_, found, elements, checked, checkedElements, same⟩ | ⟨_, fails, _⟩
  · refine ⟨found, elements, ?_, checkedElements, ?_, ?_, same⟩
    · rw [bySheet register plainCells rfl, ← byRows, checked]
    · cases checked
      rfl
    · cases checkedElements
      rfl
  · exact absurd ⟨_, rfl⟩ fails

end Sheet

end DocumentRules
