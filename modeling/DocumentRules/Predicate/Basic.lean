import DocumentRules.Violation

/-!
Predicates. A predicate is asked about a subject with some arguments. It answers with
a verdict, with a violation of its own, or by handing back a failure as if that were
an answer; or the call breaks down. A predicate may be watched, in which case its
calls are worth telling the caller about.
-/

set_option autoImplicit false

namespace DocumentRules

inductive Answer where
  | verdict (passes : Bool)
  | violation (found : Violation)
  /-- A failure was returned in the place of an answer. -/
  | returned (failure : Failure)
  | broken (breakdown : Breakdown)

structure Predicate where
  answer : Value → List Value → Answer
  watched : Bool := false

instance : Inhabited Predicate := ⟨⟨fun _ _ => .verdict true, false⟩⟩

/-- A datum whose callables are predicates. -/
abbrev Declaration := Datum Predicate

def Answer.ofTest (test : Except Breakdown Bool) : Answer :=
  match test with
  | .ok passes => .verdict passes
  | .error breakdown => .broken breakdown

end DocumentRules
