import DocumentRules.Proofs.Check.Located
import DocumentRules.Proofs.Rule.Changes
import DocumentRules.Proofs.Validator.Violations
import Mathlib.Data.List.Forall2

/-!
Stricter schemas. A rule becomes stricter when null is no longer allowed or when validators are
added behind those that it has. A rule that was not enforced may be enforced after that, so its
entry is new in the table, and every old entry is still there with its rule as strict or
stricter. A violation is the first one that a check meets, and the new validators come last. So
where both checks return, everything that was found is still found, in the same order.
-/

set_option autoImplicit false

namespace DocumentRules

open SchemaGraph (Tree)

/-! ## Stricter rules -/

/-- Apart from the fields inside it, the second rule asks for all that the first one asks for. -/
structure Rule.IsStricter (rule other : Rule) : Prop where
  tag : other.tag = rule.tag
  allowNull : other.allowNull = true → rule.allowNull = true
  validation : ∃ more, other.validation.getD [] = rule.validation.getD [] ++ more
  enforced : rule.enforced = true → other.enforced = true

theorem Rule.IsStricter.refl (rule : Rule) : rule.IsStricter rule :=
  ⟨rfl, id, ⟨[], (List.append_nil _).symm⟩, id⟩

theorem Rule.IsStricter.trans {first second third : Rule} (one : first.IsStricter second)
    (more : second.IsStricter third) : first.IsStricter third := by
  obtain ⟨added, own⟩ := one.validation
  obtain ⟨later, others⟩ := more.validation
  refine ⟨more.tag.trans one.tag, one.allowNull ∘ more.allowNull, ⟨added ++ later, ?_⟩,
    more.enforced ∘ one.enforced⟩
  rw [others, own, List.append_assoc]

namespace Schema

/-- The entries of a declared rule before and after it has become stricter. -/
inductive Tightened (own : Tree) : Tree → Prop
  | nullRefused {given : Declaration} (found : Datum.entry? "allowNull" own = some given)
      (allowed : given.holds = true) :
      Tightened own (Datum.insertEntry "allowNull" (.bool false) own)
  | extended {given : Validation} (found : Datum.entry? "validate" own = some (.mapping given))
      (more : Validation) :
      Tightened own (Datum.insertEntry "validate" (.mapping (given ++ more)) own)
  | validated (absent : (Datum.mapping own).getOrNull "validate" = .null) (added : Validation) :
      Tightened own (Datum.insertEntry "validate" (.mapping added) own)

/-- One rule among declared fields has become stricter. -/
inductive RuleTightened : Tree → Tree → Prop
  | first (key : String) {own other : Tree} (rest : Tree) (tightened : Tightened own other) :
      RuleTightened ((key, .mapping own) :: rest) ((key, .mapping other) :: rest)

/-- One rule among fields that have been read has become stricter. -/
inductive RuleStricter : Schema → Schema → Prop
  | first (key : String) {rule other : Rule} (rest : Schema) (stricter : rule.IsStricter other)
      (fields : other.fields = rule.fields) :
      RuleStricter ((key, rule) :: rest) ((key, other) :: rest)

end Schema

/-! ## Reading -/

namespace Schema

section Insert

variable {key : String} (given : Declaration) (own : Tree)

theorem get_or_null_inserted : (Datum.mapping (Datum.insertEntry key given own)).getOrNull key =
    given := by
  simp only [Datum.getOrNull, Datum.get?, Datum.entry_insert_same, Option.getD_some]

theorem get_or_null_kept (other : String) (different : key ≠ other) :
    (Datum.mapping (Datum.insertEntry key given own)).getOrNull other =
      (Datum.mapping own).getOrNull other := by
  simp only [Datum.getOrNull, Datum.get?, Datum.entry_insert_other key other different]

theorem inserted_enforces (asks : key ∈ ["validate", "type", "allowNull"]) :
    (["validate", "type", "allowNull"].any fun each =>
      ((Datum.mapping (Datum.insertEntry key given own)).get? each).isSome) = true := by
  rw [List.any_eq_true]
  exact ⟨key, asks, by simp only [Datum.get?, Datum.entry_insert_same, Option.isSome_some]⟩

/-- Only the entry of the schema matters to the fields inside a rule. -/
theorem read_fields_inserted (place : String) (different : key ≠ "schema") :
    readFields place (Datum.insertEntry key given own) = readFields place own := by
  induction own with
  | nil =>
      cases given <;> simp only [Datum.insertEntry, readFields, if_neg different]
  | cons entry rest induction =>
      obtain ⟨other, item⟩ := entry
      by_cases same : other = key
      · subst same
        cases given <;> cases item <;>
          simp only [Datum.insertEntry, if_true, readFields, if_neg different]
      · simp only [Datum.insertEntry, if_neg same]
        by_cases schema : other = "schema"
        · cases item <;> simp only [readFields, if_pos schema]
        · cases item <;> simpa only [readFields, if_neg schema] using induction

end Insert

section Head

variable {place : String} {own : Tree} {head : RuleHead}

/-- A rule that no longer allows null is read like before and is enforced. -/
theorem read_head_refusing (read : RuleHead.read place (.mapping own) = .ok head) :
    RuleHead.read place (.mapping (Datum.insertEntry "allowNull" (.bool false) own)) =
      .ok ⟨head.tag, false, head.validation, head.hasFields, true⟩ := by
  obtain ⟨tag, validation, hasFields, _, _⟩ := RuleHead.read_mapping_iff.mp read
  apply RuleHead.read_mapping_iff.mpr
  rw [get_or_null_kept _ own "type" (by decide), get_or_null_kept _ own "validate" (by decide),
    get_or_null_kept _ own "schema" (by decide), get_or_null_inserted,
    inserted_enforces _ own (by decide)]
  exact ⟨tag, validation, hasFields, rfl, rfl⟩

/-- So is a rule with another validation. -/
theorem read_head_validating (read : RuleHead.read place (.mapping own) = .ok head)
    (validation : Validation) :
    RuleHead.read place (.mapping (Datum.insertEntry "validate" (.mapping validation) own)) =
      .ok ⟨head.tag, head.allowNull, some validation, head.hasFields, true⟩ := by
  obtain ⟨tag, _, hasFields, allowNull, _⟩ := RuleHead.read_mapping_iff.mp read
  apply RuleHead.read_mapping_iff.mpr
  rw [get_or_null_kept _ own "type" (by decide), get_or_null_kept _ own "schema" (by decide),
    get_or_null_kept _ own "allowNull" (by decide), get_or_null_inserted,
    inserted_enforces _ own (by decide)]
  exact ⟨tag, rfl, hasFields, allowNull, rfl⟩

/-- A stricter rule is read, and what is read is stricter. -/
theorem Tightened.read_head {other : Tree} (tightened : Tightened own other)
    (read : RuleHead.read place (.mapping own) = .ok head) :
    ∃ stricter, RuleHead.read place (.mapping other) = .ok stricter ∧
      ∀ fields, (head.toRule fields).IsStricter (stricter.toRule fields) := by
  obtain ⟨_, readValidation, _⟩ := RuleHead.read_mapping_iff.mp read
  cases tightened with
  | nullRefused found allowed =>
      refine ⟨_, read_head_refusing read, fun fields => ⟨rfl, nofun, ⟨[], ?_⟩, fun _ => rfl⟩⟩
      exact (List.append_nil _).symm
  | @extended given found more =>
      have had : head.validation = some given := by
        rw [Datum.getOrNull, Datum.get?, found] at readValidation
        exact (Except.ok.inj readValidation).symm
      refine ⟨_, read_head_validating read (given ++ more), fun fields =>
        ⟨rfl, id, ⟨more, ?_⟩, fun _ => rfl⟩⟩
      change given ++ more = head.validation.getD [] ++ more
      rw [had]
      rfl
  | validated absent added =>
      have none : head.validation = none := by
        rw [absent] at readValidation
        exact (Except.ok.inj readValidation).symm
      refine ⟨_, read_head_validating read added, fun fields =>
        ⟨rfl, id, ⟨added, ?_⟩, fun _ => rfl⟩⟩
      change added = head.validation.getD [] ++ added
      rw [none]
      rfl

theorem Tightened.read_fields {other : Tree} (tightened : Tightened own other) :
    readFields place other = readFields place own := by
  cases tightened with
  | nullRefused found allowed => exact read_fields_inserted _ own place (by decide)
  | extended found more => exact read_fields_inserted _ own place (by decide)
  | validated absent added => exact read_fields_inserted _ own place (by decide)

end Head

theorem reading_follows_tightening : ReadingFollows RuleTightened RuleStricter := by
  intro place fields others schema changed read
  cases changed with
  | @first key own other rest tightened =>
      obtain ⟨named, rule, later, readOwn, readLater, rfl⟩ := read_rules_cons_iff.mp read
      obtain ⟨head, readHead, readOwn⟩ := Run.except_bind_ok readOwn
      obtain ⟨inner, readInner, readOwn⟩ := Run.except_bind_ok readOwn
      cases readOwn
      obtain ⟨stricter, readStricter, holds⟩ := tightened.read_head readHead
      have built : readRule (placeOf place key) (.mapping other) = .ok (stricter.toRule inner) := by
        rw [readRule, readStricter, tightened.read_fields, readInner]
        rfl
      exact ⟨(key, stricter.toRule inner) :: later,
        read_rules_cons_iff.mpr ⟨named, _, later, built, readLater, rfl⟩,
        .first key later (holds inner) rfl⟩

end Schema

/-! ## Tables -/

section Lists

variable {α β : Type} {relates : α → α → Prop}

theorem sublist_append {first firstOther second secondOther : List α}
    (before : List.SublistForall₂ relates first firstOther)
    (after : List.SublistForall₂ relates second secondOther) :
    List.SublistForall₂ relates (first ++ second) (firstOther ++ secondOther) := by
  obtain ⟨kept, own, inside⟩ := List.sublistForall₂_iff.mp before
  obtain ⟨keptAfter, ownAfter, insideAfter⟩ := List.sublistForall₂_iff.mp after
  exact List.sublistForall₂_iff.mpr
    ⟨kept ++ keptAfter, List.rel_append own ownAfter, inside.append insideAfter⟩

theorem sublist_flat_map {related : β → β → Prop} {each : α → List β}
    (follows : ∀ item other, relates item other →
      List.SublistForall₂ related (each item) (each other))
    {items others : List α} (sub : List.SublistForall₂ relates items others) :
    List.SublistForall₂ related (items.flatMap each) (others.flatMap each) := by
  induction sub with
  | nil => exact .nil
  | cons own _ induction =>
      rw [List.flatMap_cons, List.flatMap_cons]
      exact sublist_append (follows _ _ own) induction
  | cons_right _ induction =>
      rw [List.flatMap_cons]
      exact sublist_append .nil induction

theorem sublist_filter {test : α → Bool} (same : ∀ item other, relates item other →
      test item = test other)
    {items others : List α} (sub : List.SublistForall₂ relates items others) :
    List.SublistForall₂ relates (items.filter test) (others.filter test) := by
  obtain ⟨kept, own, inside⟩ := List.sublistForall₂_iff.mp sub
  refine List.sublistForall₂_iff.mpr ⟨kept.filter test, ?_, inside.filter test⟩
  apply List.rel_filter _ own
  intro item other related
  change test item = true ↔ test other = true
  rw [same item other related]

end Lists

/-- The second entry stands on the same path and its rule is as strict or stricter. -/
def TableEntry.IsStricter (entry other : TableEntry) : Prop :=
  other.path = entry.path ∧ entry.rule.IsStricter other.rule

/-- All entries are kept in their order, each as strict or stricter, and there may be new ones. -/
abbrev StricterEntries : List TableEntry → List TableEntry → Prop :=
  List.SublistForall₂ TableEntry.IsStricter

theorem stricter_entries_relation : TableRelation StricterEntries where
  same := by
    intro entries
    have reflexive : Std.Refl TableEntry.IsStricter := ⟨fun entry => ⟨rfl, .refl entry.rule⟩⟩
    exact List.SublistForall₂.is_refl.refl entries
  steps := by
    intro first second third one more
    have transitive : IsTrans TableEntry TableEntry.IsStricter :=
      ⟨fun _ _ _ one more => ⟨more.1.trans one.1, one.2.trans more.2⟩⟩
    exact List.SublistForall₂.is_trans.trans first second third one more
  append := sublist_append
  own := by
    intro path tag allowNull validation inner others enforced
    exact .cons ⟨rfl, rfl, id, ⟨[], (List.append_nil _).symm⟩, id⟩ .nil

namespace Schema

theorem rule_table_stricter {rule other : Rule} (stricter : rule.IsStricter other)
    (fields : other.fields = rule.fields) (path : Path) :
    StricterEntries (ruleTable path rule) (ruleTable path other) := by
  rw [rule_table_parts, rule_table_parts, stricter.tag, fields]
  refine sublist_append (stricter_entries_relation.same _) ?_
  cases enforced : rule.enforced with
  | false => exact .nil
  | true =>
      rw [stricter.enforced enforced]
      exact .cons ⟨rfl, stricter⟩ .nil

theorem Changed.stricter_entries {schema other : Schema}
    (changed : Changed RuleStricter schema other) :
    StricterEntries schema.table other.table := by
  refine changed.table stricter_entries_relation ?_ []
  intro fields others made origin
  cases made with
  | first key rest stricter fields =>
      rw [tableAt, tableAt]
      exact sublist_append (rule_table_stricter stricter fields _)
        (stricter_entries_relation.same _)

end Schema

/-! ## Checks -/

namespace CheckStep

theorem of_validation_append {words : Vocabulary} {given more : Validation}
    {steps : List CheckStep} (made : ofValidation words (given ++ more) = .ok steps) :
    ∃ first later, ofValidation words given = .ok first ∧ steps = first ++ later := by
  induction given generalizing steps with
  | nil => exact ⟨[], steps, rfl, rfl⟩
  | cons entry rest induction =>
      obtain ⟨validator, resolved, made⟩ := Run.except_bind_ok made
      obtain ⟨others, madeOthers, made⟩ := Run.except_bind_ok made
      obtain ⟨first, later, madeFirst, rfl⟩ := induction madeOthers
      cases made
      refine ⟨.predicateCall validator :: first, later, ?_, rfl⟩
      rw [ofValidation, resolved, madeFirst]
      rfl

theorem of_rule_stricter {words : Vocabulary} {rule other : Rule}
    (stricter : rule.IsStricter other) {steps others : List CheckStep}
    (made : ofRule words rule = .ok steps) (madeOther : ofRule words other = .ok others) :
    ∃ later, others = steps ++ later := by
  obtain ⟨more, appended⟩ := stricter.validation
  obtain ⟨validators, own, rfl⟩ := of_rule_made made
  obtain ⟨validatorsOther, ownOther, rfl⟩ := of_rule_made madeOther
  rw [appended] at ownOther
  obtain ⟨first, later, madeFirst, rfl⟩ := of_validation_append ownOther
  cases own.symm.trans madeFirst
  exact ⟨later, by rw [stricter.tag, List.append_assoc]⟩

/-- Steps that are added behind others do not touch the first violation. -/
theorem run_all_append {field : String} {value : Value} {steps : List CheckStep}
    {violation : Violation} (ran : (runAll field value steps).outcome = .ok (some violation))
    (later : List CheckStep) :
    (runAll field value (steps ++ later)).outcome = .ok (some violation) := by
  induction steps with
  | nil => cases ran
  | cons step rest induction =>
      obtain ⟨found, first, ran⟩ := (Run.bind_ok_iff _ _ _).mp ran
      refine (Run.bind_ok_iff _ _ _).mpr ⟨found, first, ?_⟩
      cases found with
      | some own => exact ran
      | none => exact induction ran

end CheckStep

theorem Rule.check_stricter {words : Vocabulary} {rule other : Rule}
    (stricter : rule.IsStricter other) {field : String} {value : Value} {violation : Violation}
    (ran : (rule.check words field value).outcome = .ok (some violation))
    (returns : (other.check words field value).Succeeds) :
    (other.check words field value).outcome = .ok (some violation) := by
  obtain ⟨steps, made, ran⟩ := (Run.bind_ok_iff _ _ _).mp ran
  obtain ⟨_, returned⟩ := returns
  obtain ⟨others, madeOther, _⟩ := (Run.bind_ok_iff _ _ _).mp returned
  obtain ⟨later, rfl⟩ := CheckStep.of_rule_stricter stricter made madeOther
  exact (Run.bind_ok_iff _ _ _).mpr ⟨_, madeOther, CheckStep.run_all_append ran later⟩

namespace LocatedCheck

structure IsStricter (check other : LocatedCheck) : Prop where
  place : other.place = check.place
  target : other.target = check.target
  rule : check.rule.IsStricter other.rule

variable {words : Vocabulary} {check other : LocatedCheck}

/-- A stricter check that returns finds what was found. -/
theorem IsStricter.outcome (stricter : check.IsStricter other) {violation : Violation}
    (ran : (check.outcome words).outcome = .ok (some violation))
    (returns : (other.outcome words).Succeeds) :
    (other.outcome words).outcome = .ok (some violation) := by
  rw [LocatedCheck.outcome] at ran returns ⊢
  rw [stricter.place, stricter.target] at returns ⊢
  by_cases absent : check.target.isNull = true
  · rw [if_pos absent] at ran ⊢
    cases refused : check.rule.allowNull with
    | true =>
        rw [refused] at ran
        cases ran
    | false =>
        have refusedOther : other.rule.allowNull = false := by
          rw [Bool.eq_false_iff]
          intro allowed
          exact absurd (stricter.rule.allowNull allowed) (by rw [refused]; decide)
        rw [refused] at ran
        rw [refusedOther]
        exact ran
  · rw [if_neg absent] at ran returns ⊢
    exact Rule.check_stricter stricter.rule ran returns

theorem IsStricter.found (stricter : check.IsStricter other)
    (returned : (check.found words).Succeeds) (returns : (other.found words).Succeeds) :
    (check.found words).result.Sublist (other.found words).result := by
  have own := Run.outcome_of_succeeds returned
  have later := Run.outcome_of_succeeds returns
  obtain ⟨violation, ran, same⟩ := (found_ok_iff words check _).mp own
  obtain ⟨_, ranOther, sameOther⟩ := (found_ok_iff words other _).mp later
  rw [same, sameOther]
  cases violation with
  | none => exact List.nil_sublist _
  | some violation =>
      have kept := stricter.outcome ran ((found_succeeds words other).mp returns)
      cases kept.symm.trans ranOther
      exact List.Sublist.refl _

end LocatedCheck

namespace TableEntry

theorem IsStricter.running {entry other : TableEntry} (stricter : entry.IsStricter other)
    (value : Value) (place : Path) :
    List.SublistForall₂ LocatedCheck.IsStricter (entry.runningChecks value place)
      (other.runningChecks value place) := by
  rw [runningChecks, runningChecks, stricter.1, List.sublistForall₂_map_left_iff,
    List.sublistForall₂_map_right_iff]
  refine List.sublistForall₂_iff.mpr ⟨_, List.forall₂_same.mpr ?_, List.Sublist.refl _⟩
  intro concrete _
  exact ⟨rfl, rfl, stricter.2⟩

/-- The checks of the first table are kept in their order. -/
theorem stricter_located {entries others : List TableEntry}
    (stricter : StricterEntries entries others) (value : Value) (place : Path) :
    List.SublistForall₂ LocatedCheck.IsStricter (locatedChecks value place entries)
      (locatedChecks value place others) := by
  have each : ∀ entry other : TableEntry, entry.IsStricter other →
      List.SublistForall₂ LocatedCheck.IsStricter (entry.runningChecks value place)
        (other.runningChecks value place) := fun _ _ own => own.running value place
  rw [located_checks_flat, located_checks_flat]
  refine sublist_flat_map each (sublist_append ?_ ?_)
  · exact sublist_filter (fun entry other own => by rw [own.1]) stricter
  · exact sublist_filter (fun entry other own => by rw [own.1]) stricter

end TableEntry

theorem LocatedCheck.results_sublist {words : Vocabulary}
    {checks others : List LocatedCheck}
    (stricter : List.SublistForall₂ LocatedCheck.IsStricter checks others)
    (returned : ∀ check ∈ checks, (check.found words).Succeeds)
    (returns : ∀ check ∈ others, (check.found words).Succeeds) :
    (checks.flatMap fun check => (check.found words).result).Sublist
      (others.flatMap fun check => (check.found words).result) := by
  induction stricter with
  | nil => exact List.nil_sublist _
  | cons own _ induction =>
      obtain ⟨first, rest⟩ := List.forall_mem_cons.mp returned
      obtain ⟨firstOther, restOther⟩ := List.forall_mem_cons.mp returns
      rw [List.flatMap_cons, List.flatMap_cons]
      exact (own.found first firstOther).append (induction rest restOther)
  | cons_right _ induction =>
      rw [List.flatMap_cons]
      exact (induction returned (List.forall_mem_cons.mp returns).2).trans
        (List.sublist_append_right _ _)

/-- Whatever a check finds, the check against a stricter schema finds in the same order, if it
returns at all. -/
theorem check_sublist_of_tightened (value : Value) (source other : SchemaSource)
    (registry : Option Registry) (place : Path)
    (tightened : source.Changed Schema.RuleTightened Schema.RuleStricter other)
    (found others : List Violation)
    (checked : (check value source registry place).outcome = .ok found)
    (checkedOther : (check value other registry place).outcome = .ok others) :
    found.Sublist others := by
  obtain ⟨schema, read, _, located⟩ := located_of_check checked
  obtain ⟨after, readAfter, _, locatedOther⟩ := located_of_check checkedOther
  have changed := tightened.read Schema.reading_follows_tightening read readAfter
  have kept := TableEntry.stricter_located changed.stricter_entries value place
  obtain ⟨returned, rfl⟩ := (Run.flat_map_ok_iff _ _ _).mp located
  obtain ⟨returns, rfl⟩ := (Run.flat_map_ok_iff _ _ _).mp locatedOther
  exact LocatedCheck.results_sublist kept returned returns

/-- A parcel without a sender and a weight. -/
def parcel : Value :=
  .mapping [("home", .mapping [("zip", .text "12"), ("street", .null)])]

def weightRule : String × Declaration := ("weight", .mapping [("type", .text "integer")])

def senderRule : String × Declaration := ("sender", .mapping [("type", .text "string")])

def homeRule (zip : Validation) (streetMayBeNull : Bool) : String × Declaration :=
  ("home", .mapping
    [("type", .text "object"),
     ("schema", .mapping
       [("zip", .mapping [("validate", .mapping zip)]),
        ("street", .mapping [("allowNull", .bool streetMayBeNull)])])])

def lenientParcels : List (String × Declaration) :=
  [senderRule, homeRule [("isString", .bool true)] true, ("notes", .mapping []), weightRule]

def strictParcels : List (String × Declaration) :=
  [senderRule, homeRule [("isString", .bool true), ("equals", .text "34")] false,
    ("notes", .mapping [("validate", .mapping [("isString", .bool true)])]), weightRule]

/-- A validator is added, null is refused, and a rule that asked for nothing asks for a text. -/
theorem parcels_tightened :
    (SchemaSource.declared (.mapping lenientParcels)).Changed Schema.RuleTightened
      Schema.RuleStricter (.declared (.mapping strictParcels)) := by
  apply SchemaSource.Changed.declared
  apply Schema.Redeclared.later senderRule
  have text : Datum.entry? "validate" [("validate", .mapping [("isString", .bool true)])] =
      some (.mapping [("isString", .bool true)] : Declaration) := rfl
  have zip : Schema.Tightened [("validate", .mapping [("isString", .bool true)])]
      [("validate", .mapping [("isString", .bool true), ("equals", .text "34")])] :=
    .extended text [("equals", .text "34")]
  have street : Schema.Tightened [("allowNull", .bool true)] [("allowNull", .bool false)] :=
    .nullRefused rfl rfl
  have notes : Schema.Tightened [] [("validate", .mapping [("isString", .bool true)])] :=
    .validated rfl _
  exact (Schema.Redeclared.inside "home" _ rfl
      ((Schema.Redeclared.here (.first "zip" _ zip)).steps
        (.later _ (.here (.first "street" _ street))))).steps
    (.later _ (.here (.first "notes" _ notes)))

theorem parcel_violations_kept :
    (SchemaSource.declared (.mapping lenientParcels)).Changed Schema.RuleTightened
        Schema.RuleStricter (.declared (.mapping strictParcels)) ∧
      ∃ found others,
        (check parcel (.declared (.mapping lenientParcels)) none []).outcome = .ok found ∧
        (check parcel (.declared (.mapping strictParcels)) none []).outcome = .ok others ∧
        found.map Violation.path = [.text "sender", .text "weight"] ∧
        others.map Violation.path =
          [.text "sender", .text "home.zip", .text "home.street", .text "notes",
            .text "weight"] ∧
        found.Sublist others := by
  refine ⟨parcels_tightened, _, _, rfl, rfl, rfl, rfl, ?_⟩
  exact check_sublist_of_tightened parcel _ _ none [] parcels_tightened _ _ rfl rfl

end DocumentRules
