import DocumentRules.Failure

/-!
What a check reports. A violation names the path, the value that was judged, the
validator and its arguments. Predicates supplied by a schema's author may make
violations of their own, in which every part may be any value; when such a predicate
breaks down, that is the cause of the violation.
-/

set_option autoImplicit false

namespace DocumentRules

open Text

structure Violation where
  message : Value
  path : Value
  value : Value
  validator : Value
  validatorName : Value
  arguments : List Value
  cause : Option Breakdown := none

namespace Violation

/-- The violation of one step of a field's check. -/
def ofStep (step field : String) (value : Value) (arguments : List Value)
    (cause : Option Breakdown := none) : Violation where
  message := .text ("Validation " ++ step ++ " on " ++ field ++ " failed")
  path := .text field
  value := value
  validator := .text step
  validatorName := .text step
  arguments := arguments
  cause := cause

/-- A violation without a path is placed at the field it was found at. -/
def placedAt (field : String) (violation : Violation) : Violation :=
  match violation.path with
  | .null => { violation with path := .text field }
  | _ => violation

/-- All parts of a violation under their names. The cause is given only when there is one. -/
def report (violation : Violation) : Value :=
  .mapping
    ([("message", violation.message), ("path", violation.path), ("value", violation.value),
      ("validator_key", violation.validator), ("validator_name", violation.validatorName),
      ("validator_args", .list violation.arguments)] ++
      match violation.cause with
      | some breakdown => [("cause", .text breakdown.literal)]
      | none => [])

def literal (violation : Violation) : String :=
  "ValidationErrorItem(path=" ++ violation.path.literal ++ ", validator=" ++
    violation.validator.literal ++ ", value=" ++ violation.value.literal ++ ")"

end Violation

/-- The parts of a violation as an author gives them, missing ones left at their defaults. -/
structure ViolationDraft where
  message : Value := .text ""
  path : Value := .null
  value : Value := .null
  validator : Value := .null
  validatorName : Value := .null
  arguments : Value := .null
  cause : Option Breakdown := none

namespace ViolationDraft

/-- Arguments are listed: a text gives its characters and a mapping its keys. -/
def listed (arguments : Value) : Except Failure (List Value) :=
  match arguments with
  | .null => .ok []
  | .list items => .ok items
  | .text value => .ok (value.toList.map fun c => .text (String.singleton c))
  | .mapping entries => .ok (entries.map fun entry => .text entry.1)
  | other => .error ⟨.type, [.text ("'" ++ other.kindName ++ "' object is not iterable")]⟩

def complete (draft : ViolationDraft) : Except Failure Violation := do
  let arguments ← listed draft.arguments
  return {
    message := if draft.message.holds then draft.message else .text ""
    path := draft.path
    value := draft.value
    validator := draft.validator
    validatorName := if draft.validatorName.holds then draft.validatorName else draft.validator
    arguments := arguments
    cause := draft.cause }

end ViolationDraft

/-- How many violations there are and where the first five lie. -/
def violationSummary (violations : List Violation) : String :=
  let places := (violations.take 5).map fun violation => violation.path.display.toList
  let more := if violations.length ≤ 5 then "" else ", ..."
  Number.naturalText violations.length ++ " validation error(s): " ++
    String.ofList (joined Datum.commaSpace places) ++ more

end DocumentRules
