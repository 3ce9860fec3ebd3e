import DocumentRules.Rule.Graph
import DocumentRules.Walk.Table

/-!
Checking a value against a schema. The value has to be a container and the schema a
mapping; the schema is then read, listed as a table, and the value is walked along
the table. Checking gives the violations in the order in which they are found;
validating refuses a value that has any.
-/

set_option autoImplicit false

namespace DocumentRules

/-- The ways in which a caller can hand over a schema. -/
inductive SchemaSource where
  | declared (given : Declaration)
  /-- Mappings that may be shared, or lie inside of themselves. -/
  | linked (graph : SchemaGraph)
  /-- A schema that has been read before. -/
  | ready (schema : Schema)

namespace SchemaSource

def isMapping : SchemaSource → Bool
  | .declared (.mapping _) => true
  | .declared _ => false
  | .linked _ => true
  | .ready _ => true

def read : SchemaSource → Except Fault Schema
  | .declared given => Schema.read given
  | .linked graph => graph.read
  | .ready schema => schema.reread

def table (source : SchemaSource) : Except Fault (List TableEntry) := source.read.map Schema.table

def tableFor (source : SchemaSource) (value : Value) : Except Fault (List TableEntry) :=
  if !value.isContainer then .error (.schema .valueNotContainer)
  else if !source.isMapping then .error (.schema .unsuitableSchema)
  else source.table

end SchemaSource

/-- The predicates that a check knows: without a registry those of the bundled one, and always the
core as it is now. -/
def knownTo (registry : Option Registry) (core : Registry := .core) : Vocabulary :=
  ⟨some (registry.getD .bundled), core⟩

/-- Walks along the table of a schema whatever the value is. Without a registry only the core
predicates are known. -/
def walk (value : Value) (source : SchemaSource) (registry : Option Registry) (place : Path)
    (core : Registry := .core) : Run (List Violation) :=
  (Run.ofExcept source.table).bind (Walk.table ⟨registry, core⟩ value place)

/-- The violations of a value. Without a registry the bundled one is used. -/
def check (value : Value) (source : SchemaSource) (registry : Option Registry) (place : Path)
    (core : Registry := .core) : Run (List Violation) :=
  (Run.ofExcept (source.tableFor value)).bind (Walk.table (knownTo registry core) value place)

def refuseViolations (found : List Violation) : Run Unit :=
  if found.isEmpty then Run.pure () else Run.fail (.violations found)

def validate (value : Value) (source : SchemaSource) (registry : Option Registry)
    (place : Path) (core : Registry := .core) : Run Unit :=
  (check value source registry place core).bind refuseViolations

end DocumentRules
