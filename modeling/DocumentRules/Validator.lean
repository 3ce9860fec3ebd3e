import DocumentRules.Registry
import DocumentRules.Rule.Basic
import DocumentRules.Run

/-!
The check of one field. Every entry of a rule's validation becomes a validator: a
predicate with its arguments. The check first finds all predicates, then tests the
type if one is declared, and then calls the predicates in the order of declaration
until one does not pass. The outcome is the first violation, if there is one.
-/

set_option autoImplicit false

namespace DocumentRules

/-- What the author put beside a validator's name. -/
inductive ArgumentForm where
  /-- The true boolean: no arguments. -/
  | none
  | single
  /-- A list: its items are the arguments. -/
  | several
  /-- A predicate of the author's own. -/
  | adHoc
  deriving DecidableEq, Repr

structure Validator where
  name : String
  predicate : Predicate
  form : ArgumentForm
  arguments : List Value
  textual : Bool

namespace Validator

def ofEntry (name : String) (entry : RegistryEntry) (given : Declaration) : Validator :=
  match given with
  | .bool true => ⟨name, entry.predicate, .none, [], entry.textual⟩
  | .list items => ⟨name, entry.predicate, .several, items.map Datum.plain, entry.textual⟩
  | other => ⟨name, entry.predicate, .single, [other.plain], entry.textual⟩

/-- A known name is taken from the words or the core, whatever stands beside it; under any
other name a callable is needed. -/
def resolve (words : Vocabulary) (name : String) (given : Declaration) :
    Except Fault Validator :=
  match Registry.resolve? words name with
  | some entry => .ok (ofEntry name entry given)
  | none =>
      match given with
      | .callable predicate => .ok ⟨name, predicate, .adHoc, [], false⟩
      | _ => .error (.schema (.unknownValidator name))

/-- What the predicate is asked about. -/
def subjectOf (validator : Validator) (value : Value) : Value :=
  if validator.textual then .text value.subject else value

/-- A text predicate cannot be asked about a value that cannot be written. -/
def canAsk (validator : Validator) (value : Value) : Bool :=
  !validator.textual || value.isWritable

def violation (validator : Validator) (field : String) (subject : Value)
    (cause : Option Breakdown := Option.none) : Violation :=
  .ofStep validator.name field subject validator.arguments cause

/-- What an answer means for the field. A breakdown of a named predicate is a fault; that of
an author's own predicate is a violation with the breakdown as its cause. -/
def judge (validator : Validator) (field : String) (subject : Value) :
    Answer → Except Fault (Option Violation)
  | .verdict true => .ok Option.none
  | .verdict false => .ok (some (validator.violation field subject))
  | .violation found => .ok (some (found.placedAt field))
  | .returned failure => .error (.returnedFailure validator.name failure.kind)
  | .broken cause =>
      if validator.form = .adHoc then .ok (some (validator.violation field subject (some cause)))
      else .error (.breakdown cause)

def call (validator : Validator) (subject : Value) : Call :=
  ⟨validator.name, subject, validator.arguments, validator.predicate.watched⟩

def run (validator : Validator) (field : String) (value : Value) : Run (Option Violation) :=
  if validator.canAsk value then
    let subject := validator.subjectOf value
    (Run.calling (validator.call subject)).bind fun _ =>
      Run.ofExcept
        (validator.judge field subject (validator.predicate.answer subject validator.arguments))
  else Run.fail (.breakdown .tooManyDigits)

end Validator

namespace TypeTag

/-- The tag that a value names. A container cannot name one. -/
def named (name : Value) : Except Fault TypeTag :=
  match name with
  | .text text =>
      match ofName? text with
      | some tag => .ok tag
      | none => .error .unknownTypeName
  | other => .error (if other.isHashable then .unknownTypeName else .unhashableType)

/-- Whether the type that is named admits a value. -/
def test (name value : Value) : Except Fault Bool :=
  (named name).map fun tag => tag.admits value

end TypeTag

/-- One step of a field's check. -/
inductive CheckStep where
  | typeTest (typeName : Value)
  | predicateCall (validator : Validator)

namespace CheckStep

def testType (typeName : Value) (field : String) (value : Value) :
    Except Fault (Option Violation) :=
  (TypeTag.test typeName value).map fun admitted =>
    if admitted then none else some (.ofStep "type" field value [typeName])

def run (field : String) (value : Value) : CheckStep → Run (Option Violation)
  | .typeTest typeName => Run.ofExcept (testType typeName field value)
  | .predicateCall validator => validator.run field value

/-- Steps one by one up to the first violation. -/
def runAll (field : String) (value : Value) : List CheckStep → Run (Option Violation)
  | [] => Run.pure none
  | step :: rest =>
      (step.run field value).bind fun found =>
        match found with
        | some violation => Run.pure (some violation)
        | none => runAll field value rest

/-- The validators of a rule in the order of declaration. -/
def ofValidation (words : Vocabulary) : Validation → Except Fault (List CheckStep)
  | [] => .ok []
  | (name, given) :: rest => do
      let validator ← Validator.resolve words name given
      let later ← ofValidation words rest
      return .predicateCall validator :: later

/-- The type test first, if there is one. -/
def ofParts (words : Vocabulary) (typeName : Option Value) (validation : Validation) :
    Except Fault (List CheckStep) :=
  (ofValidation words validation).map fun validators =>
    match typeName with
    | some name => .typeTest name :: validators
    | none => validators

def ofRule (words : Vocabulary) (rule : Rule) : Except Fault (List CheckStep) :=
  ofParts words (rule.tag.map fun tag => .text tag.name) (rule.validation.getD [])

end CheckStep

namespace Rule

/-- The check of a present value at a field. -/
def check (words : Vocabulary) (rule : Rule) (field : String) (value : Value) :
    Run (Option Violation) :=
  (Run.ofExcept (CheckStep.ofRule words rule)).bind (CheckStep.runAll field value)

end Rule

end DocumentRules
