import DocumentRules.Fault
import DocumentRules.Text.Blank

/-!
Violations as a Markdown card: a section for each violation, with its path as the
heading and its parts in a list. Texts stand between backticks, and the arguments are
left out when there are none. The card ends at its last character that is not blank.
-/

set_option autoImplicit false

namespace DocumentRules.Card

open Text

def scalar : Value → String
  | .bool true => "true"
  | .bool false => "false"
  | .null => "null"
  | .text value => if value = "" then "`\"\"`" else "`" ++ value ++ "`"
  | other => other.display

def bullet (label content : String) : List Char :=
  ("- **" ++ label ++ "**: " ++ content).toList

def argumentText (arguments : List Value) : String :=
  String.ofList (joined Datum.commaSpace (arguments.map fun argument => (scalar argument).toList))

def heading (level : Nat) (path : Value) : List Char :=
  List.replicate level '#' ++ ' ' :: (if path.holds then path.display else "$").toList

def sectionLines (level : Nat) (violation : Violation) : List (List Char) :=
  [heading level violation.path,
   bullet "message" violation.message.display,
   bullet "validator" violation.validatorName.display,
   bullet "value" (scalar violation.value)] ++
  (if violation.arguments.isEmpty then []
    else [bullet "arguments" (argumentText violation.arguments)]) ++ [[]]

def standardLevel : Nat := 2

/-- The level that a value gives: whole numbers and booleans count signs, and less than none is
none. -/
def levelOf (given : Value) : Except Fault Nat :=
  match given.numeral? with
  | some (.integer level) => .ok level.toNat
  | _ => .error (.breakdown .unsuitableKind)

def write (level : Nat) (violations : List Violation) : String :=
  String.ofList
    (dropTrailingBlanks (joined ['\n'] (violations.flatMap (sectionLines level))))

end DocumentRules.Card
