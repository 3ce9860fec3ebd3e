import DocumentRules.Rule.Table
import DocumentRules.Validator

/-!
Walking a value along the table of a schema. Entries that name one place are checked
first, in the order of the table. An entry that runs through every element of a list
is then taken up to the first such sign; from there it is walked once for each
element, with the position of the element in the place of the sign.
-/

set_option autoImplicit false

namespace DocumentRules

/-- The violation of a rule that asks for a value where there is none. -/
def Violation.required (field : String) : Violation := .ofStep "required" field .null []

/-- Applies a rule at a place: null is a violation unless it is allowed, and is not checked
any further. -/
def Rule.apply (words : Vocabulary) (rule : Rule) (place : Path) (target : Value) :
    Run (List Violation) :=
  match target with
  | .null => Run.pure (if rule.allowNull then [] else [.required place.label])
  | present => (rule.check words place.label present).bind fun found => Run.pure found.toList

namespace Path

/-- The parts of a path between the signs for every element. -/
def stretches : Path → Path × List Path
  | [] => ([], [])
  | .every :: rest => ([], (stretches rest).1 :: (stretches rest).2)
  | segment :: rest => (segment :: (stretches rest).1, (stretches rest).2)

end Path

namespace Walk

/-- The elements with their positions. -/
def numbered : (start : Int) → List Value → List (Int × Value)
  | _, [] => []
  | start, item :: rest => (start, item) :: numbered (start + 1) rest

/-- Walks from a place along stretches: a stretch leads to a list, and every further stretch
starts from each of its elements. -/
def along (words : Vocabulary) (rule : Rule) :
    (later : List Path) → (value : Value) → (place before : Path) → Run (List Violation)
  | [], value, place, before => rule.apply words (place ++ before) (value.follow before)
  | after :: later, value, place, before =>
      match value.follow before with
      | .list items =>
          Run.flatMap (numbered 0 items) fun (position, item) =>
            along words rule later item (place ++ before ++ [.index position]) after
      | _ => Run.pure []

def entry (words : Vocabulary) (value : Value) (place : Path) (entry : TableEntry) :
    Run (List Violation) :=
  along words entry.rule entry.path.stretches.2 value place entry.path.stretches.1

/-- Entries for one place, then entries that run through lists. -/
def table (words : Vocabulary) (value : Value) (place : Path)
    (entries : List TableEntry) : Run (List Violation) :=
  let direct := entries.filter fun entry => !entry.path.hasEvery
  let running := entries.filter fun entry => entry.path.hasEvery
  (Run.flatMap direct (entry words value place)).bind fun found =>
    (Run.flatMap running (entry words value place)).bind fun later =>
      Run.pure (found ++ later)

end Walk

end DocumentRules
