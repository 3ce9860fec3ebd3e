import DocumentRules.Proofs.Check.Lockstep

/-!
Checks of two values that are like each other. A likeness keeps the form of a value and is kept
by every step into it, so a path stands for the same concrete paths in both values, and the same
checks are made of like targets. Only validators can tell like targets apart, and plain targets
are the same. So where every validator that is asked about a container gives the same answer for
a container like it, both checks end alike: in the same fault, or with violations that differ at
most in the values that they show.
-/

set_option autoImplicit false

namespace DocumentRules

open Run (Alike)

/-- What of a violation does not depend on the value that it shows. -/
def Violation.headline (violation : Violation) : Value × Value × Value × List Value :=
  (violation.path, violation.message, violation.validator, violation.arguments)

abbrev Violation.SameHeadline (one other : Violation) : Prop := one.headline = other.headline

/-! ## Likenesses -/

namespace Datum

/-- The same plain value, two lists of one length, or two mappings. -/
inductive SameForm : Value → Value → Prop
  | plain {value : Value} (plain : value.isContainer = false) : SameForm value value
  | list {items others : List Value} (length : items.length = others.length) :
      SameForm (.list items) (.list others)
  | mapping (entries others : List (String × Value)) : SameForm (.mapping entries) (.mapping others)

namespace SameForm

variable {value other : Value}

theorem container (form : value.SameForm other) : value.isContainer = other.isContainer := by
  cases form <;> rfl

theorem null (form : value.SameForm other) : value.isNull = other.isNull := by
  cases form <;> rfl

theorem admits (form : value.SameForm other) (tag : TypeTag) :
    tag.admits value = tag.admits other := by
  cases form with
  | plain plain => rfl
  | list length => cases tag <;> rfl
  | mapping entries others => cases tag <;> rfl

theorem eq_of_plain (form : value.SameForm other) (plain : value.isContainer = false) :
    value = other := by
  cases form with
  | plain plain => rfl
  | list length => cases plain
  | mapping entries others => cases plain

/-- A segment stands for the same segments in both. -/
theorem steps (form : value.SameForm other) (segment : Segment) :
    segment.steps value = segment.steps other := by
  cases segment with
  | every =>
      cases form with
      | plain plain => rfl
      | list length => rw [Segment.steps, Segment.steps, length]
      | mapping entries others => rfl
  | _ => rfl

end SameForm

/-- Like values have one form, and what one step leads to in them is alike again. -/
structure Likeness (like : Value → Value → Prop) : Prop where
  form : ∀ {value other}, like value other → value.SameForm other
  step : ∀ {value other}, like value other → ∀ segment,
    like (value.step segment) (other.step segment)

namespace Likeness

variable {like : Value → Value → Prop} {value other : Value}

theorem follow (likeness : Likeness like) (same : like value other) (path : Path) :
    like (value.follow path) (other.follow path) := by
  induction path generalizing value other with
  | nil => exact same
  | cons segment rest induction => exact induction (likeness.step same segment)

theorem instances (likeness : Likeness like) (same : like value other) (path : Path) :
    path.instances value = path.instances other := by
  rw [Path.instances_places, Path.instances_places]
  induction path generalizing value other with
  | nil => rfl
  | cons segment rest induction =>
      rw [Path.places_cons, Path.places_cons, List.map_flatMap, List.map_flatMap,
        (likeness.form same).steps segment]
      apply congrArg fun each => List.flatMap each (segment.steps other)
      funext step
      have inner := congrArg (List.map (List.cons step)) (induction (likeness.step same step))
      simpa only [List.map_map, Function.comp_def] using inner

end Likeness

end Datum

open Datum (Likeness SameForm)

/-! ## The checks that are made -/

namespace LocatedCheck

/-- The same rule at the same place, applied to a target that is like the other one. -/
structure IsLike (like : Value → Value → Prop) (check other : LocatedCheck) : Prop where
  place : other.place = check.place
  rule : other.rule = check.rule
  target : like check.target other.target

theorem located_like {like : Value → Value → Prop} (likeness : Likeness like) {value other : Value}
    (same : like value other) (place : Path) (entries : List TableEntry) :
    List.Forall₂ (IsLike like) (TableEntry.locatedChecks value place entries)
      (TableEntry.locatedChecks other place entries) := by
  apply located_paired (List.forall₂_same.mpr fun _ _ => rfl)
  · rintro entry _ rfl
    rfl
  · exact likeness.instances same
  · rintro entry _ rfl concrete
    exact ⟨rfl, rfl, likeness.follow same concrete⟩

end LocatedCheck

/-- A rule is applied where a value is checked: it stands at a place of the table that the check
comes to. -/
def Applies (value : Value) (source : SchemaSource) (registry : Option Registry) (place : Path)
    (check : LocatedCheck) : Prop :=
  ∃ schema, source.read = .ok schema ∧
    Run.Reaches (LocatedCheck.found (knownTo registry))
      (TableEntry.locatedChecks value place schema.table) check

/-- A check that is made passes every test that all checks of the table pass. -/
theorem Applies.passes {value : Value} {source : SchemaSource} {registry : Option Registry}
    {place : Path} {check : LocatedCheck} (applies : Applies value source registry place check)
    {schema : Schema} (read : source.read = .ok schema) (test : LocatedCheck → Bool)
    (all : (TableEntry.locatedChecks value place schema.table).all test = true) :
    test check = true := by
  obtain ⟨other, readOther, reaches⟩ := applies
  cases read.symm.trans readOther
  exact List.all_eq_true.mp all check reaches.mem

/-- The check of a value comes to a validator and calls it: the value passes every step before. -/
def Rule.Calls (words : Vocabulary) (rule : Rule) (value : Value)
    (validator : Validator) : Prop :=
  ∃ before after,
    CheckStep.ofRule words rule = .ok (before ++ .predicateCall validator :: after) ∧
      ∀ step ∈ before, step.Passes value

theorem Rule.Calls.inside {words : Vocabulary} {rule : Rule} {value : Value}
    {validator : Validator} (calls : rule.Calls words value validator) :
    ∃ steps, CheckStep.ofRule words rule = .ok steps ∧ .predicateCall validator ∈ steps := by
  obtain ⟨before, after, made, _⟩ := calls
  exact ⟨_, made, List.mem_append_right before List.mem_cons_self⟩

theorem Rule.Calls.made {words : Vocabulary} {rule : Rule} {value : Value}
    {validator : Validator} (calls : rule.Calls words value validator) :
    ∃ entry ∈ rule.validation.getD [], Validator.IsMade words entry.1 entry.2 validator := by
  obtain ⟨steps, made, inside⟩ := calls.inside
  rcases CheckStep.mem_of_rule made inside with
    ⟨tag, impossible⟩ | ⟨name, given, own, listed, resolved, same⟩
  · cases impossible
  · cases same
    exact ⟨(name, given), listed, Validator.of_resolve resolved⟩

/-! ## Steps -/

namespace CheckStep

theorem judge_alike (validator : Validator) (field : String) (subject other : Value)
    (answer : Answer) :
    Alike (Option.Rel Violation.SameHeadline) (validator.judge field subject answer)
      (validator.judge field other answer) := by
  cases answer with
  | verdict passes =>
      cases passes with
      | true => exact .given .none
      | false => exact .given (.some rfl)
  | violation found => exact .given (.some rfl)
  | returned failure => exact .fault _
  | broken cause =>
      rw [Validator.judge, Validator.judge]
      split
      · exact .given (.some rfl)
      · exact .fault _

/-- A step only tells values of one form apart by what its validator answers. -/
theorem run_alike {value other : Value} (form : value.SameForm other) (field : String)
    (step : CheckStep)
    (answers : ∀ validator, step = .predicateCall validator →
      validator.answerFor value = validator.answerFor other) :
    Alike (Option.Rel Violation.SameHeadline) (step.run field value).outcome
      (step.run field other).outcome := by
  cases step with
  | typeTest typeName =>
      have test : TypeTag.test typeName value = TypeTag.test typeName other := by
        rw [TypeTag.test, TypeTag.test]
        apply congrArg fun admits => (TypeTag.named typeName).map admits
        funext tag
        exact form.admits tag
      change Alike _ ((TypeTag.test typeName value).map _) ((TypeTag.test typeName other).map _)
      rw [test]
      apply Alike.map (Alike.same (fun _ => rfl) _)
      rintro admitted _ rfl
      cases admitted with
      | true => exact .none
      | false => exact .some rfl
  | predicateCall validator =>
      rw [run, run, Validator.run_outcome, Validator.run_outcome, answers validator rfl]
      cases validator.answerFor other with
      | none => exact .fault _
      | some answer => exact judge_alike validator field _ _ answer

end CheckStep

/-! ## The whole check -/

section Checks

variable {like : Value → Value → Prop} (likeness : Likeness like) {words : Vocabulary}

include likeness

theorem Rule.check_like {rule : Rule} {value other : Value} (same : like value other)
    (field : String)
    (answers : ∀ validator, rule.Calls words value validator →
      validator.answerFor value = validator.answerFor other) :
    Alike (Option.Rel Violation.SameHeadline) (rule.check words field value).outcome
      (rule.check words field other).outcome := by
  rw [check, check]
  apply Alike.bind (Alike.same (fun _ => rfl) _)
  rintro steps _ made rfl
  apply CheckStep.run_all_alike (List.forall₂_same.mpr fun _ _ => rfl)
  rintro before step after _ listed passed rfl
  apply CheckStep.run_alike (likeness.form same)
  rintro validator rfl
  exact answers validator ⟨before, after, listed ▸ made, passed⟩

theorem LocatedCheck.outcome_like {check other : LocatedCheck} (same : check.IsLike like other)
    (answers : check.target.isContainer = true → ∀ validator,
      check.rule.Calls words check.target validator →
      validator.answerFor check.target = validator.answerFor other.target) :
    Alike (Option.Rel Violation.SameHeadline) (check.outcome words).outcome
      (other.outcome words).outcome := by
  have form := likeness.form same.target
  rw [outcome, outcome, same.place, same.rule, ← form.null]
  split
  · apply Alike.same
    exact Run.related_option fun _ => rfl
  · apply Rule.check_like likeness same.target
    intro validator calls
    cases container : check.target.isContainer with
    | false => rw [form.eq_of_plain container]
    | true => exact answers container validator calls

/-- Where every validator that is asked about a container answers the same about a container like
it, the checks of like values end in the same fault or report the same headlines. -/
theorem check_like {registry : Option Registry} {value other : Value} (same : like value other)
    (source : SchemaSource) (place : Path)
    (answers : ∀ check validator twin, Applies value source registry place check →
      check.target.isContainer = true → check.rule.Calls (knownTo registry) check.target validator →
      like check.target twin → validator.answerFor check.target = validator.answerFor twin) :
    (check value source registry place).outcome.map (List.map Violation.headline) =
      (check other source registry place).outcome.map (List.map Violation.headline) := by
  have form := likeness.form same
  have tabled : source.tableFor value = source.tableFor other := by
    rw [SchemaSource.tableFor, SchemaSource.tableFor, form.container]
  cases read : source.tableFor value with
  | error fault =>
      have readOther := tabled.symm.trans read
      rw [check, check, read, readOther]
      rfl
  | ok entries =>
      obtain ⟨container, schema, readSchema, rfl⟩ := SchemaSource.read_of_table_for read
      have containerOther := form.container.symm.trans container
      have rows := checks_alike container containerOther readSchema readSchema
        (LocatedCheck.located_like likeness same place schema.table)
        fun each twin reaches like =>
          LocatedCheck.outcome_like likeness like fun container validator calls =>
            answers each validator twin.target ⟨schema, readSchema, reaches⟩ container calls
              like.target
      apply Alike.eq
      apply rows.map
      intro found others headlines
      have each : List.Forall₂ Eq (found.map Violation.headline) (others.map Violation.headline) :=
        List.forall₂_map_left_iff.mpr (List.forall₂_map_right_iff.mpr headlines)
      rwa [List.forall₂_eq_eq_eq] at each

end Checks

end DocumentRules
