import DocumentRules.Json.Reader
import DocumentRules.Predicate.Basic
import DocumentRules.Text.Utf8

/-!
Everything that can go wrong beside a violation. A fault is its cause and the names
that belong to it; the words are found in one place, `Fault.message`.
-/

set_option autoImplicit false

namespace DocumentRules

open Text

/-- Faults in what a caller hands over: the schema, the value or a contract. -/
inductive SchemaFault where
  | ruleNotMapping (place kindName : String)
  | unknownType (place typeLiteral : String)
  | validateNotMapping (place : String)
  | nestedNotMapping (place : String)
  | schemaNotMapping
  | cyclic (place : String)
  | emptyKey (place : String)
  | unknownValidator (name : String)
  | valueNotContainer
  | unsuitableSchema
  | contractSchema (title : String)
  | notTable (kindName : String)

def typeNames : List String := ["array", "boolean", "float", "integer", "object", "string"]

def SchemaFault.message : SchemaFault → String
  | .ruleNotMapping place kindName =>
      place ++ ": field rule should be a mapping, got " ++ kindName
  | .unknownType place typeLiteral =>
      place ++ ": unknown type " ++ typeLiteral ++ "; expected one of " ++ quotedList typeNames
  | .validateNotMapping place =>
      place ++ ": 'validate' should be a mapping of validator name -> arguments"
  | .nestedNotMapping place => place ++ ": 'schema' should be a mapping"
  | .schemaNotMapping => "schema: schema should be a mapping"
  | .cyclic place => place ++ ": cyclic schema declaration"
  | .emptyKey place => place ++ ": field keys should be non-empty strings, got ''"
  | .unknownValidator name =>
      "unknown validator " ++ quoted name ++ " (not registered and not callable)"
  | .valueNotContainer => "object to validate should be an object or an array"
  | .unsuitableSchema => "schema should be valid"
  | .contractSchema title => "Contract '" ++ title ++ "': schema should be a mapping"
  | .notTable kindName => "expected a pandas DataFrame, got " ++ kindName

inductive SourceFault where
  | missing (path : String)
  | directory
  | belowFile
  | nameTooLong
  /-- A file or a directory that may not be opened, or that lies where nothing may be looked up. -/
  | denied
  | zeroCharacter
  | undecodable (refusal : Utf8Refusal)
  | unreadable (origin : String) (refusal : Json.Refusal)
  | unknownSchema (path : String)
  | incompleteContract (path : String)
  | unsupported (kindName : String)
  /-- Files that name each other without an end. -/
  | endlessInclusion

def contractKeys : List String := ["title", "description", "version", "schema"]

def contractKeyList : String :=
  String.ofList (joined Datum.commaSpace (contractKeys.map fun key => quotedChars key.toList))

def SourceFault.message : SourceFault → String
  | .missing path => "[Errno 2] No such file or directory: " ++ quoted path
  | .directory => "[Errno 21] Is a directory"
  | .belowFile => "[Errno 20] Not a directory"
  | .nameTooLong => "[Errno 36] File name too long"
  | .denied => "[Errno 13] Permission denied"
  | .zeroCharacter => "embedded null byte"
  | .undecodable refusal => refusal.message
  | .unreadable origin refusal =>
      match refusal with
      | .problem .. => "Invalid JSON in " ++ origin ++ ": " ++ refusal.message
      | _ => refusal.message
  | .unknownSchema path => "Schema '" ++ path ++ "' not found on disk or in package data"
  | .incompleteContract path =>
      "Schema at '" ++ path ++ "' is not a valid contract. Required keys: " ++
        contractKeyList ++ "."
  | .unsupported kindName =>
      "Unsupported type for parse_input: <class '" ++ kindName ++ "'>"
  | .endlessInclusion => ""

inductive Fault where
  | schema (fault : SchemaFault)
  /-- A type was given as a container, which names nothing. -/
  | unhashableType
  | unknownTypeName
  /-- A name that nothing was kept under. -/
  | unknownName
  /-- A registry was asked for an entry it does not have. -/
  | missingEntry
  /-- A mapping was asked for a key it does not have. -/
  | missingKey
  /-- A list or a text was asked for a place behind its end. -/
  | missingItem
  | breakdown (cause : Breakdown)
  | returnedFailure (validator : String) (kind : FailureKind)
  | notCallable (name : String)
  | violations (found : List Violation)
  | source (fault : SourceFault)

def Fault.message : Fault → String
  | .schema fault => fault.message
  | .unhashableType => ""
  | .unknownTypeName => ""
  | .unknownName => ""
  | .missingEntry => ""
  | .missingKey => ""
  | .missingItem => ""
  | .breakdown cause => cause.message
  | .returnedFailure validator kind =>
      "validator " ++ quoted validator ++ " returned " ++ kind.name ++
        "; predicates return a truth value or a ValidationErrorItem"
  | .notCallable name => "predicate " ++ quoted name ++ " is not callable"
  | .violations found => violationSummary found
  | .source fault => fault.message

/-- Faults that stand for what is not followed here: a text with half of a surrogate pair, a
character that is given by its name, and groups that lie too deep in one another. What comes
after them is not told. -/
def Fault.isUnfollowed : Fault → Bool
  | .source (.unreadable _ .halfPair) => true
  | .breakdown (.badPattern .characterName) => true
  | .breakdown (.badPattern .tooDeep) => true
  | _ => false

end DocumentRules
