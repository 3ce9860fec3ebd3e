import DocumentRules.Check
import DocumentRules.Document

/-!
Contracts: a schema with a title, a description and a version. A document is a
contract when it is a mapping that has all of these and its schema is a mapping. The
title, the description and the version may be any data.
-/

set_option autoImplicit false

namespace DocumentRules

structure Contract where
  title : Value
  description : Value
  version : Value
  schema : Declaration
  registry : Option Registry

namespace Contract

def make (title description version : Value) (schema : Declaration)
    (registry : Option Registry) : Except Fault Contract :=
  match schema with
  | .mapping entries => .ok ⟨title, description, version, .mapping entries, registry⟩
  | _ => .error (.schema (.contractSchema title.display))

def hasAllKeys (document : Declaration) : Bool :=
  contractKeys.all fun key => (document.get? key).isSome

/-- The contract that a document found under a path holds. -/
def ofDocument (path : String) (document : Declaration) (registry : Option Registry) :
    Except Fault Contract :=
  if hasAllKeys document then
    make (document.getOrNull "title").plain (document.getOrNull "description").plain
      (document.getOrNull "version").plain (document.getOrNull "schema") registry
  else .error (.source (.incompleteContract path))

def load (disk : Disk) (path : String) (registry : Option Registry) : Except Fault Contract :=
  match loadDocument disk path with
  | .ok document => ofDocument path document registry
  | .error fault => .error (.source fault)

def keys (contract : Contract) : List String :=
  match contract.schema with
  | .mapping entries => entries.map Prod.fst
  | _ => []

def source (contract : Contract) : SchemaSource := .declared contract.schema

def check (contract : Contract) (value : Value) (core : Registry := .core) :
    Run (List Violation) :=
  DocumentRules.check value contract.source contract.registry [] core

def validate (contract : Contract) (value : Value) (core : Registry := .core) : Run Unit :=
  DocumentRules.validate value contract.source contract.registry [] core

/-- Reads a value and hands it back if it has no violations. -/
def readAndValidate (contract : Contract) (disk : Disk) (source : Source)
    (core : Registry := .core) : Run Value :=
  match source.read disk with
  | .ok value => (contract.validate value core).bind fun _ => Run.pure value
  | .error fault => Run.fail (.source fault)

def literal (contract : Contract) : String :=
  "Contract(title=" ++ contract.title.literal ++ ", version=" ++ contract.version.literal ++ ")"

end Contract

end DocumentRules
