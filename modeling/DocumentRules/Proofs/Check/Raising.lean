import DocumentRules.Predicate.AdHoc
import DocumentRules.Proofs.Check.Lockstep
import DocumentRules.Proofs.Rule.Replacement

/-!
A predicate of the author's own that breaks down instead of refusing. A breakdown of such a
predicate is a violation like a refusal, and shows its cause. It does not end the check, so after
the replacement of predicates everything is found that was found before, and only violations
of the replaced predicates can show a cause that was not there.
-/

set_option autoImplicit false

namespace DocumentRules

open Run (Alike)

/-- The second predicate answers like the first, but may break down where the first refuses. -/
def Predicate.Raises (predicate other : Predicate) : Prop :=
  ∀ subject, other.answer subject [] = predicate.answer subject [] ∨
    (predicate.answer subject [] = .verdict false ∧
      ∃ cause, other.answer subject [] = .broken cause)

namespace Predicate

/-- The predicate, except that it breaks down where it would refuse. -/
def breakingDown (predicate : Predicate) (cause : Breakdown) : Predicate where
  answer := fun subject arguments =>
    match predicate.answer subject arguments with
    | .verdict false => .broken cause
    | answer => answer
  watched := predicate.watched

theorem raises_breaking_down (predicate : Predicate) (cause : Breakdown) :
    predicate.Raises (predicate.breakingDown cause) := by
  intro subject
  simp only [breakingDown]
  cases predicate.answer subject [] with
  | verdict passes =>
      cases passes with
      | true => exact Or.inl rfl
      | false => exact Or.inr ⟨rfl, cause, rfl⟩
  | _ => exact Or.inl rfl

end Predicate

/-- The same violation, except for the cause where a predicate that nothing is registered for was
replaced: the old one refuses the value and the new one breaks down over it. -/
inductive Violation.Recaused (words : Vocabulary)
    (change : String → Predicate → Predicate → Prop) : Violation → Violation → Prop
  | same (violation : Violation) : Recaused words change violation violation
  | raised {name : String} (field : String) {subject : Value} {own other : Predicate}
      {cause : Breakdown} (unknown : Registry.Lacks words name)
      (changed : change name own other) (refused : own.answer subject [] = .verdict false)
      (broke : other.answer subject [] = .broken cause) :
      Recaused words change (.ofStep name field subject [])
        (.ofStep name field subject [] (some cause))

variable {words : Vocabulary} {change : String → Predicate → Predicate → Prop}

theorem Violation.recaused_refl (found : Option Violation) :
    Option.Rel (Violation.Recaused words change) found found :=
  Run.related_option .same found

/-! ## Steps -/

/-- The same step, or a call of a replaced predicate that nothing is registered for. -/
inductive CheckStep.Replaced (words : Vocabulary)
    (change : String → Predicate → Predicate → Prop) : CheckStep → CheckStep → Prop
  | kept (step : CheckStep) : CheckStep.Replaced words change step step
  | adHoc {name : String} {own other : Predicate} (unknown : Registry.Lacks words name)
      (changed : change name own other) :
      CheckStep.Replaced words change (.predicateCall ⟨name, own, .adHoc, [], false⟩)
        (.predicateCall ⟨name, other, .adHoc, [], false⟩)

theorem Validator.resolve_replaced {name : String} {given other : Declaration}
    (replaced : Replaced change (name, given) (name, other)) :
    Alike (fun validator fellow =>
        CheckStep.Replaced words change (.predicateCall validator) (.predicateCall fellow))
      (resolve words name given) (resolve words name other) := by
  have plain := Replaced.plain name given other replaced
  unfold resolve
  cases replaced with
  | kept => exact Alike.same (fun _ => .kept _) _
  | @inside _ entries others each =>
      cases Registry.resolve? words name with
      | none => exact .fault _
      | some entry =>
          -- The predicates inside of an argument are not part of the argument's value.
          have same : ofEntry name entry (.mapping entries) =
              ofEntry name entry (.mapping others) :=
            congrArg (fun argument : Value =>
              Validator.mk name entry.predicate .single [argument] entry.textual) plain
          apply Alike.given
          rw [same]
          exact .kept _
  | predicate changed =>
      cases looked : Registry.resolve? words name with
      | none => exact .given (.adHoc (Registry.resolve_none_iff.mp looked) changed)
      | some entry => exact .given (.kept _)

namespace CheckStep

theorem of_validation_replaced {validation other : Validation}
    (each : List.Forall₂ (DocumentRules.Replaced change) validation other) :
    Alike (List.Forall₂ (CheckStep.Replaced words change)) (ofValidation words validation)
      (ofValidation words other) := by
  induction each with
  | nil => exact .given .nil
  | @cons entry fellow _ _ own _ induction =>
      obtain ⟨name, given⟩ := entry
      obtain ⟨_, givenOther⟩ := fellow
      obtain rfl := own.key
      rw [ofValidation, ofValidation]
      apply Alike.bind_except (Validator.resolve_replaced own)
      intro validator validatorOther step
      apply Alike.bind_except induction
      intro later laterOther steps
      exact .given (.cons step steps)

theorem of_rule_replaced {rule other : Rule} (asks : rule.AsksSame change other) :
    Alike (List.Forall₂ (CheckStep.Replaced words change)) (ofRule words rule)
      (ofRule words other) := by
  rw [ofRule, ofRule, asks.tag]
  apply Alike.map (of_validation_replaced asks.validation)
  intro validators validatorsOther steps
  cases rule.tag with
  | none => exact steps
  | some tag => exact .cons (.kept _) steps

theorem run_replaced (raising : ∀ name own other, change name own other → own.Raises other)
    {step other : CheckStep} (replaced : CheckStep.Replaced words change step other)
    (field : String) (value : Value) :
    Alike (Option.Rel (Violation.Recaused words change)) (step.run field value).outcome
      (other.run field value).outcome := by
  cases replaced with
  | kept step => exact Alike.same Violation.recaused_refl _
  | @adHoc name own other unknown changed =>
      change Alike _
        (Validator.judge ⟨name, own, .adHoc, [], false⟩ field value (own.answer value []))
        (Validator.judge ⟨name, other, .adHoc, [], false⟩ field value (other.answer value []))
      rcases raising name own other changed value with like | ⟨refused, cause, broke⟩
      · rw [like]
        exact Alike.same Violation.recaused_refl _
      · rw [refused, broke]
        exact .given (.some (.raised field unknown changed refused broke))

end CheckStep

/-! ## The whole check -/

namespace LocatedCheck

/-- The same place and target, and a rule that asks for the same apart from predicates. -/
structure Replaced (change : String → Predicate → Predicate → Prop) (check other : LocatedCheck) :
    Prop where
  place : other.place = check.place
  target : other.target = check.target
  rule : check.rule.AsksSame change other.rule

theorem located_replaced {entries others : List TableEntry}
    (each : List.Forall₂ (TableEntry.Replaced change) entries others) (value : Value)
    (place : Path) :
    List.Forall₂ (LocatedCheck.Replaced change) (TableEntry.locatedChecks value place entries)
      (TableEntry.locatedChecks value place others) := by
  apply located_paired each
  · exact fun _ _ own => own.path
  · exact fun _ => rfl
  · exact fun _ _ own concrete => ⟨rfl, rfl, own.rule⟩

theorem Replaced.outcome (raising : ∀ name own other, change name own other → own.Raises other)
    {check other : LocatedCheck} (replaced : check.Replaced change other) :
    Alike (Option.Rel (Violation.Recaused words change)) (check.outcome words).outcome
      (other.outcome words).outcome := by
  rw [LocatedCheck.outcome, LocatedCheck.outcome, replaced.place, replaced.target,
    replaced.rule.allowNull]
  split
  · exact Alike.same Violation.recaused_refl _
  · rw [Rule.check, Rule.check]
    apply Alike.bind (CheckStep.of_rule_replaced replaced.rule)
    intro steps others _ each
    apply CheckStep.run_all_alike each
    intro before step after fellow _ _ own
    exact CheckStep.run_replaced raising own check.place.label check.target

end LocatedCheck

/-- Where predicates of the author's own are replaced by ones that break down instead of refusing,
a check that returned still returns, and it finds the same violations in the same order. Only
those of replaced predicates differ, and only in the cause that they now show. -/
theorem raising_is_failing (value : Value) (source other : SchemaSource)
    (registry : Option Registry) (place : Path)
    (change : String → Predicate → Predicate → Prop)
    (raising : ∀ name own other, change name own other → own.Raises other)
    (replaced : source.Replaced change other) (found : List Violation)
    (checked : (check value source registry place).outcome = .ok found) :
    ∃ others, (check value other registry place).outcome = .ok others ∧
      List.Forall₂ (Violation.Recaused (knownTo registry) change) found others := by
  obtain ⟨schema, read, container, _⟩ := located_of_check checked
  obtain ⟨after, readAfter, each⟩ := replaced.read read
  have alike : Alike (List.Forall₂ (Violation.Recaused (knownTo registry) change))
      (check value source registry place).outcome (check value other registry place).outcome :=
    checks_alike container container read readAfter
      (LocatedCheck.located_replaced (Schema.table_replaced each) value place)
      fun _ _ _ own => own.outcome raising
  rw [checked] at alike
  generalize (check value other registry place).outcome = outcome at alike
  cases alike with
  | given results => exact ⟨_, rfl, results⟩

def marbles : Value :=
  .mapping
    [("count", .integer 3),
      ("bags", .list
        [.mapping [("size", .integer 2)], .mapping [("size", .integer 5)],
          .mapping [("size", .text "7")]])]

def marbleRules (count size : Predicate) : SchemaSource :=
  .declared (.mapping
    [("count", .mapping [("validate", .mapping [("isEven", .callable count)])]),
      ("bags", .mapping
        [("type", .text "array"),
          ("schema", .mapping
            [("size", .mapping
              [("validate", .mapping
                [("isEven", .callable size), ("isString", .bool true)])])])])])

def oddCount : Breakdown := .failed ⟨.schema, [.text "odd"]⟩

def oddSize : Breakdown := .failed ⟨.key, []⟩

def brittleMarbleRules : SchemaSource :=
  marbleRules (Predicate.even.breakingDown oddCount) (Predicate.even.breakingDown oddSize)

/-- The test for even numbers is replaced under one name. -/
def EvenReplaced (name : String) (own other : Predicate) : Prop :=
  name = "isEven" ∧ own = .even ∧ ∃ cause, other = Predicate.even.breakingDown cause

theorem marble_rules_replaced :
    (marbleRules .even .even).Replaced EvenReplaced brittleMarbleRules := by
  have changed : ∀ cause, Replaced EvenReplaced ("isEven", .callable .even)
      ("isEven", .callable (Predicate.even.breakingDown cause)) :=
    fun cause => .predicate ⟨rfl, rfl, cause, rfl⟩
  have count := Replaced.inside "count" (.cons (.inside "validate" (.cons (changed oddCount) .nil))
    .nil)
  have size := Replaced.inside "size"
    (.cons (.inside "validate" (.cons (changed oddSize) (.cons (.kept ("isString", .bool true))
      .nil))) .nil)
  have bags := Replaced.inside "bags"
    (.cons (.kept ("type", .text "array")) (.cons (.inside "schema" (.cons size .nil)) .nil))
  exact .declared (.cons count (.cons bags .nil))

theorem marbles_found_again :
    (∀ name own other, EvenReplaced name own other → own.Raises other) ∧
      (marbleRules .even .even).Replaced EvenReplaced brittleMarbleRules ∧
      ∃ found others,
        (check marbles (marbleRules .even .even) none []).outcome = .ok found ∧
        (check marbles brittleMarbleRules none []).outcome = .ok others ∧
        found.map (fun violation => (violation.path, violation.validator, violation.cause)) =
          [(.text "count", .text "isEven", none), (.text "bags.0.size", .text "isString", none),
            (.text "bags.1.size", .text "isEven", none),
            (.text "bags.2.size", .text "isEven", none)] ∧
        others.map Violation.cause = [some oddCount, none, some oddSize, some oddSize] ∧
        List.Forall₂ (Violation.Recaused (knownTo none) EvenReplaced) found others := by
  have raising : ∀ name own other, EvenReplaced name own other → own.Raises other := by
    rintro name _ _ ⟨_, rfl, cause, rfl⟩
    exact Predicate.raises_breaking_down .even cause
  obtain ⟨others, checked, same⟩ := raising_is_failing marbles _ _ none [] EvenReplaced raising
    marble_rules_replaced _ rfl
  refine ⟨raising, marble_rules_replaced, _, others, rfl, checked, rfl, ?_, same⟩
  cases checked
  rfl

end DocumentRules
