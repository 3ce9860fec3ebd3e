import DocumentRules.Check

/-!
Sheets: named columns of cells. A sheet is validated row by row, each row as a mapping
from column names to cells, at the place of its number. A missing cell is null. Which
cells are missing, and what a column looks like when its cells have been given one type,
is decided elsewhere: these rules are a parameter.
-/

set_option autoImplicit false

namespace DocumentRules

structure CellRules where
  /-- A column whose cells have been given one type. -/
  convert : List Value → List Value
  isMissing : Value → Bool

/-- The cells of a column as they appear in the rows. -/
def CellRules.settle (rules : CellRules) (cells : List Value) : List Value :=
  (rules.convert cells).map fun cell => if rules.isMissing cell then .null else cell

structure Sheet where
  columns : List (String × List Value)

namespace Sheet

/-- The number of rows: a sheet without columns has none. -/
def height (sheet : Sheet) : Nat :=
  match sheet.columns with
  | [] => 0
  | column :: _ => column.2.length

def settled (sheet : Sheet) (rules : CellRules) : Sheet :=
  ⟨sheet.columns.map fun (name, cells) => (name, rules.settle cells)⟩

def row (sheet : Sheet) (number : Nat) : Value :=
  .mapping (sheet.columns.map fun (name, cells) => (name, cells[number]?.getD .null))

def records (sheet : Sheet) (rules : CellRules) : List Value :=
  (List.range sheet.height).map (sheet.settled rules).row

def tableOf (source : SchemaSource) : Except Fault (List TableEntry) :=
  if !source.isMapping then .error (.schema .unsuitableSchema) else source.table

/-- The violations of all rows, each row at the place of its number. -/
def checkRecords (records : List Value) (source : SchemaSource) (registry : Option Registry) :
    Run (List Violation) :=
  (Run.ofExcept (tableOf source)).bind fun entries =>
    Run.flatMap (Walk.numbered 0 records) fun (position, record) =>
      Walk.table (knownTo registry) record [.index position] entries

def check (sheet : Sheet) (rules : CellRules) (source : SchemaSource)
    (registry : Option Registry) : Run (List Violation) :=
  checkRecords (sheet.records rules) source registry

def validate (sheet : Sheet) (rules : CellRules) (source : SchemaSource)
    (registry : Option Registry) : Run Unit :=
  (sheet.check rules source registry).bind refuseViolations

/-- The fault of handing over something else in the place of a sheet. -/
def refusalOf (value : Value) : Fault := .schema (.notTable value.kindName)

end Sheet

end DocumentRules
