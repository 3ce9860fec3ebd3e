import DocumentRules.Rule.Declared

/-!
Schemas that share parts. A graph lists mappings by number; the schema of a rule may
be any mapping of the graph, also one that the rule lies in. Reading follows the
links and refuses to enter a mapping that it is inside of. A mapping that is merely
used twice is read twice. While reading, the mappings on the way from the root are
all different, so their number bounds the depth.
-/

set_option autoImplicit false

namespace DocumentRules

/-- A rule whose schema is a mapping of the graph, if it has one there. -/
structure LinkedRule where
  given : Declaration
  target : Option Nat

structure SchemaGraph where
  mappings : List (List (String × LinkedRule))

namespace SchemaGraph

def mapping (graph : SchemaGraph) (number : Nat) : List (String × LinkedRule) :=
  graph.mappings[number]?.getD []

/-- A rule together with the mapping that is its schema. -/
def readLinked (read : String → Nat → Except Fault Schema) (place : String)
    (given : Declaration) (number : Nat) : Except Fault Rule := do
  let head ← RuleHead.read place given
  let fields ← read place number
  return head.toRule (some fields)

def readRules (read : String → Nat → Except Fault Schema) (place : String) :
    List (String × LinkedRule) → Except Fault Schema
  | [] => .ok []
  | (key, linked) :: rest =>
      if key = "" then .error (.schema (.emptyKey place))
      else do
        let inner := Schema.placeOf place key
        let rule ←
          match linked.target with
          | none => Schema.readRule inner linked.given
          | some number => readLinked read inner linked.given number
        let later ← readRules read place rest
        return (key, rule) :: later

/-- Reads a mapping at a place. `entered` holds the mappings on the way to it. -/
def readMapping (graph : SchemaGraph) : (depth : Nat) → (entered : List Nat) → String → Nat →
    Except Fault Schema
  | 0, _, place, _ => .error (.schema (.cyclic place))
  | depth + 1, entered, place, number =>
      if entered.contains number then .error (.schema (.cyclic place))
      else
        readRules (readMapping graph depth (number :: entered)) place (graph.mapping number)

def read (graph : SchemaGraph) : Except Fault Schema :=
  graph.readMapping (graph.mappings.length + 1) [] "" 0

/-! ## Links in a declared tree -/

/-- A rule is named by the keys that lead to it; a mapping by the keys of the rule it is the
schema of, the whole schema by none. -/
abbrev Keys := List String

/-- A rule's schema is to be the very mapping that stands elsewhere. -/
structure Link where
  rule : Keys
  mapping : Keys

mutual

/-- The mappings of a declared tree, each under its keys, outer ones first. -/
def mappingsOf (keys : Keys) : List (String × Declaration) →
    List (Keys × List (String × Declaration))
  | [] => []
  | (key, given) :: rest => innerOf (keys ++ [key]) given ++ mappingsOf keys rest

def innerOf (keys : Keys) : Declaration → List (Keys × List (String × Declaration))
  | .mapping entries => schemaOf keys entries
  | _ => []

def schemaOf (keys : Keys) : List (String × Declaration) →
    List (Keys × List (String × Declaration))
  | [] => []
  | (key, given) :: rest =>
      if key = "schema" then
        match given with
        | .mapping entries => (keys, entries) :: mappingsOf keys entries
        | _ => []
      else schemaOf keys rest

end

/-- Where the schema of a rule stands once the links are in place. The latest link counts. -/
def targetOf (links : List (Keys × Keys)) (rule : Keys) : Keys :=
  ((links.find? fun link => link.1 == rule).map Prod.snd).getD rule

/-- The mapping that steps from rule to rule lead to. -/
def arrive (links : List (Keys × Keys)) : (here : Keys) → Keys → Keys
  | here, [] => here
  | here, key :: rest => arrive links (targetOf links (here ++ [key])) rest

/-- Adds a link, whose ends are named through the links before it. -/
def addLink (links : List (Keys × Keys)) (link : Link) : List (Keys × Keys) :=
  match link.rule.getLast? with
  | none => links
  | some key => (arrive links [] link.rule.dropLast ++ [key], arrive links [] link.mapping) :: links

/-- A linked rule is declared with some schema, whatever stood there before. -/
def withSchema (links : List (Keys × Keys)) (rule : Keys) (given : Declaration) : Declaration :=
  match given, links.any fun link => link.1 == rule with
  | .mapping entries, true => .mapping (Datum.insertEntry "schema" (.mapping []) entries)
  | _, _ => given

/-- The graph of a declared tree with links put in. -/
def ofTree (entries : List (String × Declaration)) (added : List Link) : SchemaGraph :=
  let links := added.foldl addLink []
  let mappings := ([], entries) :: mappingsOf [] entries
  let numberOf (keys : Keys) : Option Nat := mappings.findIdx? fun mapping => mapping.1 == keys
  ⟨mappings.map fun (keys, rules) =>
    rules.map fun (key, given) =>
      let rule := keys ++ [key]
      (key, ⟨withSchema links rule given, numberOf (targetOf links rule)⟩)⟩

end SchemaGraph

end DocumentRules
