import DocumentRules.Predicate.AdHoc
import DocumentRules.Proofs.Check.Offenders
import Mathlib.Data.List.Forall2

/-!
What a check finds, apart from where it is said to be. A complaint is a violation without the
field that it is about, and a finding is a complaint with the place inside the value that it was
made at. The findings are made without any regard to the place of the whole value: that place
comes before the place of each finding in its label and does nothing else. So a check behind a
prefix calls the same predicates, ends in the same fault, and reports the same findings under
the labels behind the prefix.
-/

set_option autoImplicit false

namespace DocumentRules

/-- The same violation but for its message and its path. -/
structure Violation.AgreesWith (one other : Violation) : Prop where
  value : one.value = other.value
  validator : one.validator = other.validator
  validatorName : one.validatorName = other.validatorName
  arguments : one.arguments = other.arguments
  cause : one.cause = other.cause

/-- A violation without the field that it is about. -/
inductive Complaint where
  /-- A step of the check that the value does not pass. -/
  | failed (step : String) (value : Value) (arguments : List Value) (cause : Option Breakdown)
  /-- A violation that a predicate reports on its own, with a path or without. -/
  | reported (found : Violation)

namespace Complaint

/-- The field stands in the message and the path of a step that is not passed. A reported
violation takes it as its path only where it has none. -/
def about (field : String) : Complaint → Violation
  | failed step value arguments cause => .ofStep step field value arguments cause
  | reported found => found.placedAt field

theorem about_agrees (complaint : Complaint) (field other : String) :
    (complaint.about field).AgreesWith (complaint.about other) := by
  cases complaint with
  | failed step value arguments cause => exact ⟨rfl, rfl, rfl, rfl, rfl⟩
  | reported found =>
      rw [about, about, Violation.placedAt, Violation.placedAt]
      split <;> exact ⟨rfl, rfl, rfl, rfl, rfl⟩

end Complaint

/-! ## Complaints of a field's check -/

namespace Validator

/-- What an answer means, whatever the field is. -/
def weigh (validator : Validator) (subject : Value) : Answer → Except Fault (Option Complaint)
  | .verdict true => .ok none
  | .verdict false => .ok (some (.failed validator.name subject validator.arguments none))
  | .violation found => .ok (some (.reported found))
  | .returned failure => .error (.returnedFailure validator.name failure.kind)
  | .broken cause =>
      if validator.form = .adHoc then
        .ok (some (.failed validator.name subject validator.arguments (some cause)))
      else .error (.breakdown cause)

def complaint (validator : Validator) (value : Value) : Run (Option Complaint) :=
  if validator.canAsk value then
    let subject := validator.subjectOf value
    (Run.calling (validator.call subject)).bind fun _ =>
      Run.ofExcept
        (validator.weigh subject (validator.predicate.answer subject validator.arguments))
  else Run.fail (.breakdown .tooManyDigits)

variable (validator : Validator) (field : String)

theorem judge_complaint (subject : Value) (answer : Answer) :
    validator.judge field subject answer =
      (validator.weigh subject answer).map (Option.map (Complaint.about field)) := by
  cases answer with
  | verdict passes => cases passes <;> rfl
  | violation found => rfl
  | returned failure => rfl
  | broken cause =>
      rw [judge, weigh]
      split <;> rfl

theorem run_complaint (value : Value) :
    validator.run field value =
      (validator.complaint value).map (Option.map (Complaint.about field)) := by
  rw [run, complaint]
  split
  · simp only [judge_complaint, Run.map_bind, Run.map_of_except]
  · rw [Run.map, Run.bind_fail]

end Validator

namespace CheckStep

def complaint (value : Value) : CheckStep → Run (Option Complaint)
  | .typeTest typeName =>
      Run.ofExcept ((TypeTag.test typeName value).map fun admitted =>
        if admitted then none else some (.failed "type" value [typeName] none))
  | .predicateCall validator => validator.complaint value

/-- The complaint of the first step that is not passed. -/
def firstComplaint (value : Value) : List CheckStep → Run (Option Complaint)
  | [] => Run.pure none
  | step :: rest =>
      (step.complaint value).bind fun made =>
        match made with
        | some complaint => Run.pure (some complaint)
        | none => firstComplaint value rest

variable (field : String) (value : Value)

theorem run_complaint (step : CheckStep) :
    step.run field value = (step.complaint value).map (Option.map (Complaint.about field)) := by
  cases step with
  | typeTest typeName =>
      rw [run, complaint, testType, Run.map_of_except]
      cases TypeTag.test typeName value with
      | error fault => rfl
      | ok admitted => cases admitted <;> rfl
  | predicateCall validator => exact validator.run_complaint field value

theorem run_all_complaint (steps : List CheckStep) :
    runAll field value steps =
      (firstComplaint value steps).map (Option.map (Complaint.about field)) := by
  induction steps with
  | nil => rfl
  | cons step rest induction =>
      rw [runAll, firstComplaint, run_complaint, Run.bind_map, Run.map_bind]
      apply congrArg (Run.bind (step.complaint value))
      funext made
      cases made with
      | some complaint => rfl
      | none => exact induction

end CheckStep

def Rule.complaint (words : Vocabulary) (rule : Rule) (value : Value) :
    Run (Option Complaint) :=
  (Run.ofExcept (CheckStep.ofRule words rule)).bind (CheckStep.firstComplaint value)

theorem Rule.check_complaint (words : Vocabulary) (rule : Rule) (field : String)
    (value : Value) :
    rule.check words field value =
      (rule.complaint words value).map (Option.map (Complaint.about field)) := by
  rw [check, complaint, Run.map_bind]
  apply congrArg (Run.bind (Run.ofExcept (CheckStep.ofRule words rule)))
  funext steps
  exact CheckStep.run_all_complaint field value steps

/-! ## Findings of a walk -/

/-- A complaint and the place inside the value that it was made at. -/
structure Finding where
  place : Path
  complaint : Complaint

namespace Finding

def label (finding : Finding) : String := finding.place.label

/-- The violation where the whole value lies at a place. -/
def behind (start : Path) (finding : Finding) : Violation :=
  finding.complaint.about (start ++ finding.place).label

end Finding

namespace LocatedCheck

def complaint (words : Vocabulary) (check : LocatedCheck) : Run (Option Complaint) :=
  if check.target.isNull then
    Run.pure (if check.rule.allowNull then none else some (.failed "required" .null [] none))
  else check.rule.complaint words check.target

def findings (words : Vocabulary) (check : LocatedCheck) : Run (List Finding) :=
  (check.complaint words).map fun made => (made.map (Finding.mk check.place)).toList

/-- The same check where the whole value lies at a place. -/
def behind (start : Path) (check : LocatedCheck) : LocatedCheck :=
  ⟨start ++ check.place, check.target, check.rule⟩

variable (words : Vocabulary) (check : LocatedCheck)

theorem outcome_complaint :
    check.outcome words =
      (check.complaint words).map (Option.map (Complaint.about check.place.label)) := by
  rw [outcome, complaint]
  split
  · rw [Run.map_pure]
    cases check.rule.allowNull <;> rfl
  · exact check.rule.check_complaint words _ _

theorem found_behind (start : Path) :
    (check.behind start).found words =
      (check.findings words).map (List.map (Finding.behind start)) := by
  have complaint : (check.behind start).complaint words = check.complaint words := rfl
  rw [found, findings, outcome_complaint, complaint, Run.bind_map]
  simp only [Run.map, Run.bind_assoc, Run.bind_pure]
  apply congrArg (Run.bind (check.complaint words))
  funext made
  cases made <;> rfl

end LocatedCheck

theorem TableEntry.located_checks_behind (value : Value) (start : Path)
    (entries : List TableEntry) :
    locatedChecks value start entries =
      (locatedChecks value [] entries).map (LocatedCheck.behind start) := by
  simp only [locatedChecks, List.map_append, List.map_map, List.map_flatMap]
  apply congrArg (List.append _)
  apply congrArg fun each => List.flatMap each _
  funext entry
  rw [runningChecks, runningChecks, List.map_map]
  rfl

/-- What is found in a value, wherever the value lies. -/
def findings (value : Value) (source : SchemaSource) (registry : Option Registry) :
    Run (List Finding) :=
  (Run.ofExcept (source.tableFor value)).bind fun entries =>
    Run.flatMap (TableEntry.locatedChecks value [] entries)
      (LocatedCheck.findings (knownTo registry))

/-- A check is the run of the findings, each shown under the label behind the place. -/
theorem check_findings (value : Value) (source : SchemaSource) (registry : Option Registry)
    (start : Path) :
    check value source registry start =
      (findings value source registry).map (List.map (Finding.behind start)) := by
  rw [check, findings, Run.map_bind]
  apply congrArg (Run.bind (Run.ofExcept (source.tableFor value)))
  funext entries
  rw [Walk.table_checks, TableEntry.located_checks_behind, Run.flat_map_map,
    Run.map_flat_map]
  apply congrArg (Run.flatMap (TableEntry.locatedChecks value [] entries))
  funext located
  exact located.found_behind (knownTo registry) start

theorem LocatedCheck.mem_findings {words : Vocabulary} {checks : List LocatedCheck}
    {seen : List Finding}
    (ran : (Run.flatMap checks (LocatedCheck.findings words)).outcome = .ok seen)
    {finding : Finding} (member : finding ∈ seen) :
    ∃ check ∈ checks, finding.place = check.place := by
  obtain ⟨all, same⟩ := (Run.flat_map_ok_iff checks _ seen).mp ran
  rw [same] at member
  obtain ⟨check, listed, inside⟩ := List.mem_flatMap.mp member
  obtain ⟨given, outcome⟩ := all check listed
  obtain ⟨made, _, own⟩ := (Run.bind_pure_ok_iff _ _ given).mp outcome
  rw [← ((Run.outcome_ok_iff _ given).mp outcome).2, own] at inside
  obtain ⟨complaint, _, placed⟩ := Option.map_eq_some_iff.mp (Option.mem_toList.mp inside)
  exact ⟨check, listed, by rw [← placed]⟩

/-- Findings lie at places that keys and positions lead to. -/
theorem findings_reached {value : Value} {source : SchemaSource} {registry : Option Registry}
    {seen : List Finding} (ran : (findings value source registry).outcome = .ok seen)
    (finding : Finding) (member : finding ∈ seen) : finding.place.IsReached := by
  obtain ⟨entries, tabled, located⟩ := (Run.bind_ok_iff _ _ _).mp ran
  obtain ⟨_, schema, read, table⟩ := SchemaSource.read_of_table_for tabled
  obtain ⟨check, listed, place⟩ := LocatedCheck.mem_findings located member
  obtain ⟨entry, inTable, fitting, _, _⟩ := TableEntry.mem_located_checks listed
  rw [← table] at inTable
  rw [place]
  exact (Schema.table_spelled read entry inTable).reached fitting

/-- Findings under any labels agree with the findings under any other ones. -/
theorem findings_agree (label other : Finding → String) (seen : List Finding) :
    List.Forall₂ Violation.AgreesWith
      (seen.map fun finding => finding.complaint.about (label finding))
      (seen.map fun finding => finding.complaint.about (other finding)) := by
  apply List.forall₂_map_left_iff.mpr
  apply List.forall₂_map_right_iff.mpr
  apply List.forall₂_same.mpr
  intro finding _
  exact finding.complaint.about_agrees _ _

/-- A prefix that names something only changes the labels: the check behind it faults as the check
without it does, and otherwise shows the same findings, in their order. What stood under the
label of the root stands under the prefix, and anything else under the prefix, a point and its
label. The field that a finding is about is the only thing that its violation takes from the
place, so violations agree but for messages and paths, and a path of a predicate's own is kept. -/
theorem check_behind_prefix (value : Value) (source : SchemaSource) (registry : Option Registry)
    (start : Path) (concrete : start.hasEvery = false) (named : start.key ≠ "") :
    (∀ fault, (check value source registry start).outcome = .error fault ↔
        (check value source registry []).outcome = .error fault) ∧
      ∀ found, (check value source registry []).outcome = .ok found →
        ∃ others, (check value source registry start).outcome = .ok others ∧
          List.Forall₂ Violation.AgreesWith found others ∧
          ∃ seen, (findings value source registry).outcome = .ok seen ∧
            found = seen.map (fun finding => finding.complaint.about finding.label) ∧
            others = seen.map fun finding =>
              finding.complaint.about (Path.labelAfter start.key finding.label) := by
  rw [check_findings value source registry [], check_findings value source registry start]
  simp only [Run.outcome_map]
  cases ran : (findings value source registry).outcome with
  | error fault =>
      refine ⟨fun other => ?_, nofun⟩
      rw [Except.map, Except.map]
  | ok seen =>
      refine ⟨fun fault => iff_of_false nofun nofun, ?_⟩
      intro found checked
      cases checked
      -- Both checks show these findings, so only the labels are left to compare. They are as
      -- described because reading a schema leaves no place that is written with an empty text.
      have relabelled : seen.map (Finding.behind start) = seen.map fun finding =>
          finding.complaint.about (Path.labelAfter start.key finding.label) := by
        apply List.map_congr_left
        intro finding member
        rw [Finding.behind, Path.label_after concrete named (findings_reached ran finding member)]
        rfl
      refine ⟨_, rfl, ?_, seen, rfl, rfl, relabelled⟩
      exact findings_agree _ _ seen

/-- A shelf with a label that no rule allows and a box without a weight. -/
def shelf : Value :=
  .mapping [("code", .text "A"), ("boxes", .list [.mapping [("weight", .integer 4)], .mapping []])]

/-- Two predicates report violations of their own: one says where, the other does not. -/
def shelfRules : SchemaSource :=
  .declared (.mapping
    [("$", .mapping [("validate", .mapping [("allowedKeys", .list [.text "boxes"])])]),
      ("code", .mapping
        [("validate", .mapping
          [("printed",
            .callable (.reporting { message := .text "smudged", path := .text "label" }))])]),
      ("boxes", .mapping
        [("type", .text "array"),
          ("validate", .mapping
            [("stacked", .callable (.reporting { message := .text "leaning" }))]),
          ("schema", .mapping [("weight", .mapping [("type", .text "integer")])])])])

def room : Path := [.field "rooms", .index 3]

theorem shelf_in_room :
    room.hasEvery = false ∧ room.key ≠ "" ∧
      ∃ found others, (check shelf shelfRules none []).outcome = .ok found ∧
        (check shelf shelfRules none room).outcome = .ok others ∧
        found.map (fun violation => (violation.path, violation.message)) =
          [(.text "$", .text "Validation allowedKeys on $ failed"),
            (.text "label", .text "smudged"), (.text "boxes", .text "leaning"),
            (.text "boxes.1.weight", .text "Validation required on boxes.1.weight failed")] ∧
        others.map (fun violation => (violation.path, violation.message)) =
          [(.text "rooms.3", .text "Validation allowedKeys on rooms.3 failed"),
            (.text "label", .text "smudged"), (.text "rooms.3.boxes", .text "leaning"),
            (.text "rooms.3.boxes.1.weight",
              .text "Validation required on rooms.3.boxes.1.weight failed")] ∧
        List.Forall₂ Violation.AgreesWith found others := by
  have named : room.key ≠ "" := by decide
  obtain ⟨_, shown⟩ := check_behind_prefix shelf shelfRules none room rfl named
  obtain ⟨others, checked, agree, _⟩ := shown _ rfl
  refine ⟨rfl, named, _, others, rfl, checked, rfl, ?_, agree⟩
  cases checked
  rfl

end DocumentRules
