import DocumentRules.Fault

/-!
A run of predicates: the calls that were made, in order, and how the run ended. A
fault ends the run and keeps the calls made before it. Runs compose in the usual way;
the laws below are the ones that rearranging a check rests on.
-/

set_option autoImplicit false

namespace DocumentRules

/-- One call of a predicate under the name it was called by. -/
structure Call where
  validator : String
  subject : Value
  arguments : List Value
  watched : Bool

structure Run (α : Type) where
  calls : List Call
  outcome : Except Fault α

namespace Run

variable {α β γ : Type}

@[ext] theorem ext {left right : Run α} (calls : left.calls = right.calls)
    (outcome : left.outcome = right.outcome) : left = right := by
  cases left
  cases right
  cases calls
  cases outcome
  rfl

def pure (value : α) : Run α := ⟨[], .ok value⟩

def fail (fault : Fault) : Run α := ⟨[], .error fault⟩

def ofExcept (outcome : Except Fault α) : Run α := ⟨[], outcome⟩

def calling (call : Call) : Run Unit := ⟨[call], .ok ()⟩

def bind (run : Run α) (next : α → Run β) : Run β :=
  match run.outcome with
  | .ok value => ⟨run.calls ++ (next value).calls, (next value).outcome⟩
  | .error fault => ⟨run.calls, .error fault⟩

instance : Monad Run where
  pure := Run.pure
  bind := Run.bind

theorem bind_pure (value : α) (next : α → Run β) : (Run.pure value).bind next = next value := by
  simp [Run.pure, Run.bind]

theorem bind_fail (fault : Fault) (next : α → Run β) :
    (Run.fail fault : Run α).bind next = Run.fail fault := rfl

theorem bind_pure_right (run : Run α) : run.bind Run.pure = run := by
  cases run with
  | mk calls outcome => cases outcome <;> simp [Run.pure, Run.bind]

theorem bind_assoc (run : Run α) (next : α → Run β) (last : β → Run γ) :
    (run.bind next).bind last = run.bind fun value => (next value).bind last := by
  cases run with
  | mk calls outcome =>
      cases outcome with
      | error fault => rfl
      | ok value =>
          simp only [Run.bind]
          cases (next value).outcome <;> simp

/-- Runs one after the other and appends what they give. -/
def appended : List (Run (List α)) → Run (List α)
  | [] => Run.pure []
  | run :: rest => run.bind fun found => (appended rest).bind fun later => Run.pure (found ++ later)

def flatMap (items : List β) (each : β → Run (List α)) : Run (List α) :=
  appended (items.map each)

theorem appended_append (left right : List (Run (List α))) :
    appended (left ++ right) =
      (appended left).bind fun found =>
        (appended right).bind fun later => Run.pure (found ++ later) := by
  induction left with
  | nil => simp [appended, bind_pure, bind_pure_right]
  | cons run rest induction =>
      simp only [List.cons_append, appended, induction, bind_assoc, bind_pure, List.append_assoc]

end Run

end DocumentRules
