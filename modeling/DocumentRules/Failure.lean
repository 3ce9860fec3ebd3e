import DocumentRules.Pattern.Reader
import DocumentRules.Value.Display

/-!
How a predicate can go wrong. A predicate may report a failure of one of the kinds
below, with details of its own; or its call breaks down because the arguments do not
suit it. Breakdowns carry their cause only.
-/

set_option autoImplicit false

namespace DocumentRules

open Text
open Pattern (PatternError)

inductive FailureKind where
  | value
  | key
  | zeroDivision
  | runtime
  | type
  | schema
  deriving DecidableEq, Repr

def FailureKind.name : FailureKind → String
  | .value => "ValueError"
  | .key => "KeyError"
  | .zeroDivision => "ZeroDivisionError"
  | .runtime => "RuntimeError"
  | .type => "TypeError"
  | .schema => "SchemaError"

structure Failure where
  kind : FailureKind
  details : List Value

namespace Failure

def detailChars (details : List Value) : List Char :=
  '(' :: joined Datum.commaSpace (Datum.literalItems details) ++ [')']

/-- The kind, and the details in parentheses. -/
def literal (failure : Failure) : String :=
  failure.kind.name ++ String.ofList (detailChars failure.details)

/-- Nothing for no details, the detail itself for one, all of them in parentheses for more. -/
def message (failure : Failure) : String :=
  match failure.details with
  | [] => ""
  | [detail] => detail.display
  | details => String.ofList (detailChars details)

end Failure

/-- Why a call of a predicate ended without an answer. -/
inductive Breakdown where
  /-- The predicate reported a failure of its own. -/
  | failed (failure : Failure)
  | argumentCount
  /-- Two things were compared, or one was used, in a way their kinds do not allow. -/
  | unsuitableKind
  /-- The subject lacks the operation that was asked of it. -/
  | lackingOperation
  | unhashable
  /-- A whole number has more digits than are written. -/
  | tooManyDigits
  | badPattern (error : PatternError)

namespace Breakdown

def name : Breakdown → String
  | .failed failure => failure.kind.name
  | .argumentCount => "TypeError"
  | .unsuitableKind => "TypeError"
  | .lackingOperation => "AttributeError"
  | .unhashable => "TypeError"
  | .tooManyDigits => "ValueError"
  | .badPattern .hugeBound => "OverflowError"
  | .badPattern .conflictingFlags => "ValueError"
  | .badPattern (.tooManyDigits _) => "ValueError"
  | .badPattern _ => "re.error"

def message : Breakdown → String
  | .failed failure => failure.message
  | .tooManyDigits => Number.unwrittenMessage
  | .badPattern .conflictingFlags => "ASCII and UNICODE flags are incompatible"
  | .badPattern (.tooManyDigits count) => Number.unreadMessage count
  | _ => ""

def literal : Breakdown → String
  | .failed failure => failure.literal
  | other => other.name ++ "()"

end Breakdown

end DocumentRules
