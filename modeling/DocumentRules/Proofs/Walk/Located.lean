import DocumentRules.Proofs.Walk.Instances

/-!
Walking along a table is running one check after the other from a list that is known
beforehand. The list holds a check for every entry that names one place, in the order
of the table, and after these a check for every concrete path of every other entry.
Both sides make the same calls and end with the same violations or the same fault.
-/

set_option autoImplicit false

namespace DocumentRules

/-- A rule to be applied at a place, with what stands there. -/
structure LocatedCheck where
  place : Path
  target : Value
  rule : Rule

namespace LocatedCheck

/-- The violation where there has to be something at a place and there is nothing. -/
def missingAt (place : Path) : Violation where
  message := .text ("Validation required on " ++ place.label ++ " failed")
  path := .text place.label
  value := .null
  validator := .text "required"
  validatorName := .text "required"
  arguments := []
  cause := none

/-- Null is a violation where the rule does not allow it and is nothing where it does. Anything
else goes through the rule's check under the label of the place. -/
def outcome (words : Vocabulary) (check : LocatedCheck) : Run (Option Violation) :=
  if check.target.isNull then
    Run.pure (if check.rule.allowNull then none else some (missingAt check.place))
  else check.rule.check words check.place.label check.target

def found (words : Vocabulary) (check : LocatedCheck) : Run (List Violation) :=
  (check.outcome words).bind fun violation => Run.pure violation.toList

theorem missing_at_eq (place : Path) : missingAt place = .required place.label := rfl

theorem apply_located (words : Vocabulary) (rule : Rule) (place : Path)
    (target : Value) :
    rule.apply words place target = (LocatedCheck.mk place target rule).found words := by
  cases target with
  | null =>
      change Run.pure (if rule.allowNull then [] else [Violation.required place.label]) =
        (Run.pure (if rule.allowNull then none else some (missingAt place))).bind _
      rw [Run.bind_pure, missing_at_eq]
      cases rule.allowNull <;> rfl
  | _ => rfl

end LocatedCheck

namespace TableEntry

def directCheck (value : Value) (place : Path) (entry : TableEntry) : LocatedCheck :=
  ⟨place ++ entry.path, value.follow entry.path, entry.rule⟩

def runningChecks (value : Value) (place : Path) (entry : TableEntry) : List LocatedCheck :=
  (entry.path.instances value).map fun concrete =>
    ⟨place ++ concrete, value.follow concrete, entry.rule⟩

/-- Entries for one place, then entries that run through lists. -/
def locatedChecks (value : Value) (place : Path) (entries : List TableEntry) :
    List LocatedCheck :=
  (entries.filter fun entry => !entry.path.hasEvery).map (directCheck value place) ++
    (entries.filter fun entry => entry.path.hasEvery).flatMap (runningChecks value place)

theorem running_checks_of_direct (value : Value) (place : Path) (entry : TableEntry)
    (direct : entry.path.hasEvery = false) :
    entry.runningChecks value place = [entry.directCheck value place] := by
  rw [runningChecks, Path.instances_of_direct entry.path value direct]
  rfl

theorem direct_checks_of_direct (value : Value) (place : Path) (entries : List TableEntry)
    (direct : ∀ entry ∈ entries, entry.path.hasEvery = false) :
    entries.flatMap (runningChecks value place) = entries.map (directCheck value place) := by
  induction entries with
  | nil => rfl
  | cons listed rest induction =>
      have first := direct listed List.mem_cons_self
      have later := induction fun entry member => direct entry (List.mem_cons_of_mem listed member)
      rw [List.flatMap_cons, List.map_cons, later,
        running_checks_of_direct value place listed first, List.singleton_append]

/-- An entry for one place has that place as its only concrete path. -/
theorem located_checks_flat (value : Value) (place : Path) (entries : List TableEntry) :
    locatedChecks value place entries =
      ((entries.filter fun entry => !entry.path.hasEvery) ++
        entries.filter fun entry => entry.path.hasEvery).flatMap (runningChecks value place) := by
  have direct : ∀ entry ∈ entries.filter (fun entry => !entry.path.hasEvery),
      entry.path.hasEvery = false := by
    intro entry member
    simpa using (List.mem_filter.mp member).2
  rw [locatedChecks, List.flatMap_append, direct_checks_of_direct value place _ direct]

end TableEntry

namespace Walk

theorem entry_checks (words : Vocabulary) (value : Value) (place : Path)
    (listed : TableEntry) :
    entry words value place listed =
      Run.flatMap (listed.runningChecks value place) (LocatedCheck.found words) := by
  rw [entry_places, Path.places_instances, Run.flat_map_map, TableEntry.runningChecks,
    Run.flat_map_map]
  apply congrArg (Run.flatMap (listed.path.instances value))
  funext concrete
  exact LocatedCheck.apply_located words listed.rule (place ++ concrete) _

theorem flat_map_entries (words : Vocabulary) (value : Value) (place : Path)
    (entries : List TableEntry) :
    Run.flatMap entries (entry words value place) =
      Run.flatMap (entries.flatMap (TableEntry.runningChecks value place))
        (LocatedCheck.found words) := by
  rw [Run.flat_map_flat_map]
  apply congrArg (Run.flatMap entries)
  funext listed
  exact entry_checks words value place listed

theorem table_checks (words : Vocabulary) (value : Value) (place : Path)
    (entries : List TableEntry) :
    table words value place entries =
      Run.flatMap (TableEntry.locatedChecks value place entries)
        (LocatedCheck.found words) := by
  rw [table, TableEntry.located_checks_flat, List.flatMap_append, Run.flat_map_append,
    flat_map_entries, flat_map_entries]

/-- Walking gives the violations of the located checks, at most one each and in their order, or
the fault of the first check that has one. The concrete paths behind the checks are those whose
segments fit one by one, in the order of their positions. -/
theorem table_runs_located_checks (words : Vocabulary) (value : Value) (place : Path)
    (entries : List TableEntry) :
    table words value place entries =
        Run.flatMap (TableEntry.locatedChecks value place entries) (fun check =>
          (check.outcome words).bind fun violation => Run.pure violation.toList) ∧
      ∀ path : Path,
        (∀ concrete, concrete ∈ path.instances value ↔ path.IsInstance value concrete) ∧
          (path.instances value).Pairwise fun earlier later =>
            path.indices earlier < path.indices later := by
  refine ⟨table_checks words value place entries, ?_⟩
  intro path
  exact ⟨Path.mem_instances path value, Path.instances_ascend path value⟩

end Walk

end DocumentRules
