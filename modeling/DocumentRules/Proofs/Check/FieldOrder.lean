import DocumentRules.Proofs.Check.Located
import DocumentRules.Proofs.Rule.Changes

/-!
The order of declaration. Fields may change places, in a schema and in the schemas inside it;
the entries of its table then change places too, and the checks that they stand for. Rules are
compared without the fields inside them, which a check of the rule does not look at. So a check
returns in one order when it returns in the other, and finds the same violations.
-/

set_option autoImplicit false

namespace DocumentRules

/-! ## Rules without the fields inside them -/

def Rule.withoutFields (rule : Rule) : Rule := { rule with fields := none }

def TableEntry.withoutFields (entry : TableEntry) : TableEntry :=
  ⟨entry.path, entry.rule.withoutFields⟩

namespace LocatedCheck

def withoutFields (check : LocatedCheck) : LocatedCheck :=
  ⟨check.place, check.target, check.rule.withoutFields⟩

/-- A check does not look at the fields inside its rule. -/
theorem found_without_fields (words : Vocabulary) (check : LocatedCheck) :
    check.withoutFields.found words = check.found words := rfl

theorem found_of_each (words : Vocabulary) (checks : List LocatedCheck) :
    Run.flatMap (checks.map withoutFields) (found words) =
      Run.flatMap checks (found words) := by
  rw [Run.flat_map_map]
  exact congrArg (Run.flatMap checks) (funext (found_without_fields words))

end LocatedCheck

/-! ## Tables -/

/-- The entries of both tables are the same, in any order and apart from the fields inside. -/
def SameEntries (entries others : List TableEntry) : Prop :=
  (entries.map TableEntry.withoutFields).Perm (others.map TableEntry.withoutFields)

theorem same_entries_relation : TableRelation SameEntries where
  same := by
    intro entries
    exact List.Perm.refl _
  steps := by
    intro first second third one more
    exact List.Perm.trans one more
  append := by
    intro first firstOther second secondOther before after
    rw [SameEntries, List.map_append, List.map_append]
    exact List.Perm.append before after
  own := by
    intro path tag allowNull validation inner others enforced
    exact List.Perm.refl _

namespace Schema

theorem table_flat_map (origin : Path) (fields : Schema) :
    tableAt origin fields =
      fields.flatMap fun field => ruleTable (origin.extend field.1) field.2 := by
  induction fields with
  | nil => rfl
  | cons field rest induction => rw [tableAt, List.flatMap_cons, induction]

theorem table_perm {fields others : Schema} (perm : fields.Perm others) (origin : Path) :
    SameEntries (tableAt origin fields) (tableAt origin others) := by
  rw [SameEntries, table_flat_map, table_flat_map]
  exact (perm.flatMap_right _).map _

theorem Changed.same_entries {schema other : Schema} (reordered : Changed List.Perm schema other) :
    SameEntries schema.table other.table :=
  reordered.table same_entries_relation (fun _ _ perm => table_perm perm) []

/-- Fields in another order are read in that order. -/
theorem reading_follows_order : ReadingFollows List.Perm List.Perm := by
  intro place fields others schema perm read
  induction perm generalizing schema with
  | nil => exact ⟨schema, read, List.Perm.refl schema⟩
  | cons field _ induction =>
      obtain ⟨named, rule, later, own, readLater, rfl⟩ := read_rules_cons_iff.mp read
      obtain ⟨after, readAfter, perm⟩ := induction later readLater
      exact ⟨(field.1, rule) :: after,
        read_rules_cons_iff.mpr ⟨named, rule, after, own, readAfter, rfl⟩, perm.cons _⟩
  | swap second first rest =>
      obtain ⟨named, rule, later, own, readLater, rfl⟩ := read_rules_cons_iff.mp read
      obtain ⟨namedNext, next, last, ownNext, readLast, rfl⟩ := read_rules_cons_iff.mp readLater
      have moved := read_rules_cons_iff.mpr ⟨named, rule, last, own, readLast, rfl⟩
      exact ⟨(second.1, next) :: (first.1, rule) :: last,
        read_rules_cons_iff.mpr ⟨namedNext, next, _, ownNext, moved, rfl⟩, List.Perm.swap _ _ _⟩
  | trans _ _ first second =>
      obtain ⟨middle, readMiddle, one⟩ := first schema read
      obtain ⟨after, readAfter, more⟩ := second middle readMiddle
      exact ⟨after, readAfter, one.trans more⟩

end Schema

namespace TableEntry

theorem running_without_fields (value : Value) (place : Path) (entry : TableEntry) :
    entry.withoutFields.runningChecks value place =
      (entry.runningChecks value place).map LocatedCheck.withoutFields := by
  rw [runningChecks, runningChecks, List.map_map]
  rfl

theorem running_of_each (value : Value) (place : Path) (entries : List TableEntry) :
    (entries.flatMap (runningChecks value place)).map LocatedCheck.withoutFields =
      (entries.map withoutFields).flatMap (runningChecks value place) := by
  rw [List.map_flatMap, List.flatMap_map]
  exact congrArg (fun each => List.flatMap each entries)
    (funext fun entry => (running_without_fields value place entry).symm)

theorem located_checks_reordered {entries others : List TableEntry}
    (same : SameEntries entries others) (value : Value) (place : Path) :
    ((locatedChecks value place entries).map LocatedCheck.withoutFields).Perm
      ((locatedChecks value place others).map LocatedCheck.withoutFields) := by
  have own := (located_checks_perm value place entries).map LocatedCheck.withoutFields
  have other := (located_checks_perm value place others).map LocatedCheck.withoutFields
  rw [running_of_each] at own other
  exact own.trans ((same.flatMap_right _).trans other.symm)

end TableEntry

/-- Whether a check returns does not depend on the order of the fields, and in another order it
finds the same violations in some other order. -/
theorem check_permutes_with_fields (value : Value) (source other : SchemaSource)
    (registry : Option Registry) (place : Path)
    (reordered : source.Changed List.Perm List.Perm other)
    (readable : ∃ schema, other.read = .ok schema) (found : List Violation)
    (checked : (check value source registry place).outcome = .ok found) :
    ∃ others, (check value other registry place).outcome = .ok others ∧ found.Perm others := by
  obtain ⟨schema, read, container, located⟩ := located_of_check checked
  obtain ⟨after, readAfter⟩ := readable
  have changed := reordered.read Schema.reading_follows_order read readAfter
  have perm := TableEntry.located_checks_reordered changed.same_entries value place
  rw [check_of_read container readAfter, ← LocatedCheck.found_of_each]
  rw [← LocatedCheck.found_of_each] at located
  exact Run.flat_map_perm perm _ located

/-- Two seats, one with a row of the wrong kind and none with a name. -/
def theatre : Value :=
  .mapping [("seats", .list [.mapping [("row", .text "K")], .mapping []])]

def rowRule : String × Declaration := ("row", .mapping [("type", .text "integer")])

def nameRule : String × Declaration := ("name", .mapping [("type", .text "string")])

def seatsRule (inner : List (String × Declaration)) : String × Declaration :=
  ("seats", .mapping [("type", .text "array"), ("schema", .mapping inner)])

def sizeRule : String × Declaration := ("size", .mapping [("type", .text "integer")])

def theatreRules : SchemaSource :=
  .declared (.mapping [seatsRule [rowRule, nameRule], sizeRule])

def theatreRulesReordered : SchemaSource :=
  .declared (.mapping [sizeRule, seatsRule [nameRule, rowRule]])

/-- Fields change places at both levels. -/
theorem theatre_reordered :
    theatreRules.Changed List.Perm List.Perm theatreRulesReordered := by
  apply SchemaSource.Changed.declared
  have inner : Schema.Redeclared List.Perm [rowRule, nameRule] [nameRule, rowRule] :=
    .here (List.Perm.swap _ _ [])
  have seats : Schema.Redeclared List.Perm [seatsRule [rowRule, nameRule], sizeRule]
      [seatsRule [nameRule, rowRule], sizeRule] := .inside "seats" [sizeRule] rfl inner
  exact seats.steps (.here (List.Perm.swap _ _ []))

theorem theatre_checks_permute :
    theatreRules.Changed List.Perm List.Perm theatreRulesReordered ∧
      (∃ schema, theatreRulesReordered.read = .ok schema) ∧
      ∃ found others, (check theatre theatreRules none []).outcome = .ok found ∧
        (check theatre theatreRulesReordered none []).outcome = .ok others ∧
        found.map Violation.path =
          [.text "size", .text "seats.0.row", .text "seats.1.row", .text "seats.0.name",
            .text "seats.1.name"] ∧
        others.map Violation.path =
          [.text "size", .text "seats.0.name", .text "seats.1.name", .text "seats.0.row",
            .text "seats.1.row"] ∧
        found.Perm others := by
  refine ⟨theatre_reordered, ⟨_, rfl⟩, ?_⟩
  obtain ⟨others, checked, perm⟩ :=
    check_permutes_with_fields theatre theatreRules theatreRulesReordered none [] theatre_reordered
      ⟨_, rfl⟩ _ rfl
  refine ⟨_, others, rfl, checked, rfl, ?_, perm⟩
  cases checked
  rfl

end DocumentRules
