import DocumentRules.Predicate.Named

/-!
A small stock of predicates that a schema's author can put beside a name of his own.
-/

set_option autoImplicit false

namespace DocumentRules.Predicate

def answering (answer : Answer) : Predicate where
  answer := fun _ _ => answer

def constant (value : Value) : Predicate := answering (.verdict value.holds)

def watchedConstant (value : Value) : Predicate := { constant value with watched := true }

def holding : Predicate where
  answer := fun subject _ => .verdict subject.holds

/-- Passes when a mapping has something that holds under one of the keys. -/
def hasAny (keys : List String) : Predicate where
  answer := fun subject _ =>
    match subject with
    | .mapping _ => .verdict (keys.any fun key => (subject.getOrNull key).holds)
    | _ => .broken (.failed ⟨.type, [.text "not a mapping"]⟩)

def maximalSize (bound : Int) : Predicate where
  answer := fun subject _ =>
    match size? subject with
    | some length => .verdict (decide ((length : Int) ≤ bound))
    | none => .broken (.failed ⟨.type, [.text "no length"]⟩)

def even : Predicate where
  answer := fun subject _ =>
    match subject with
    | .integer value => .verdict (value % 2 == 0)
    | _ => .verdict false

def argumentCount (count : Int) : Predicate where
  answer := fun _ arguments => .verdict (decide ((arguments.length : Int) = count))

/-- Reports the violation that a draft describes, or the fault in the draft. -/
def reporting (draft : ViolationDraft) : Predicate :=
  answering
    (match draft.complete with
      | .ok violation => .violation violation
      | .error failure => .broken (.failed failure))

def failing (failure : Failure) : Predicate := answering (.broken (.failed failure))

def returningFailure (failure : Failure) : Predicate := answering (.returned failure)

end DocumentRules.Predicate
