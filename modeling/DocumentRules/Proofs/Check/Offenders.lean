import DocumentRules.Proofs.Check.Located
import DocumentRules.Proofs.Rule.Names
import DocumentRules.Proofs.Validator.Violations

/-!
The path of a violation leads to the value that was judged. What a check reports was
found at a place inside the value; the path is the label of that place, and reading the
label back as a path leads to the same value, although positions are read as names.
-/

set_option autoImplicit false

namespace DocumentRules

open Number Text

theorem TableEntry.mem_located_checks {value : Value} {entries : List TableEntry}
    {check : LocatedCheck} (member : check ∈ locatedChecks value [] entries) :
    ∃ entry ∈ entries, entry.path.IsInstance value check.place ∧
      check.target = value.follow check.place ∧ check.rule = entry.rule := by
  have running := (located_checks_perm value [] entries).mem_iff.mp member
  obtain ⟨entry, listed, inside⟩ := List.mem_flatMap.mp running
  obtain ⟨concrete, standing, same⟩ := List.mem_map.mp inside
  subst same
  exact ⟨entry, listed, (Path.mem_instances entry.path value concrete).mp standing, rfl, rfl⟩

theorem Path.IsInstance.short {path concrete : Path} {value : Value}
    (fitting : path.IsInstance value concrete) (spelled : path.IsSpelled)
    (addressable : value.Addressable) (position : Int)
    (member : Segment.index position ∈ concrete) :
    (naturalChars position.natAbs).length ≤ digitLimit := by
  obtain ⟨before, segment, inPath, fits⟩ := fitting.fits_of_mem member
  have own := spelled.segments segment inPath
  cases segment with
  | every =>
      -- Keys spell no positions, so this one comes from a list and lies below its length.
      obtain ⟨items, list, own, inside, same⟩ := fits
      cases same
      have few := addressable before items list
      exact natural_chars_length_le (by decide) (Nat.lt_of_lt_of_le inside few)
  | field name => cases fits
  | index other => exact False.elim own
  | flag truth => cases fits

theorem LocatedCheck.outcome_violation {registry : Registry} {check : LocatedCheck}
    {violation : Violation} (known : registry.OnlyJudges)
    (own : Validation.OnlyJudges (check.rule.validation.getD []))
    (ran : (check.outcome ⟨some registry, .core⟩).outcome = .ok (some violation)) :
    violation.path = .text check.place.label ∧
      (check.target = .null → violation.validator = .text "required" ∧ violation.value = .null) ∧
      (check.target ≠ .null → violation.Shows registry check.target) := by
  obtain ⟨place, target, rule⟩ := check
  by_cases absent : target = .null
  · subst absent
    change (Except.ok (if rule.allowNull then none else some (.required place.label)) :
      Except Fault (Option Violation)) = .ok (some violation) at ran
    cases allowed : rule.allowNull with
    | true =>
        rw [allowed] at ran
        cases ran
    | false =>
        rw [allowed] at ran
        cases ran
        exact ⟨rfl, fun _ => ⟨rfl, rfl⟩, fun present => absurd rfl present⟩
  · have checked : (rule.check ⟨some registry, .core⟩ place.label target).outcome =
        .ok (some violation) := by
      cases target with
      | null => exact absurd rfl absent
      | _ => exact ran
    obtain ⟨path, shows⟩ := Rule.check_violation known own checked
    exact ⟨path, fun null => absurd null absent, fun _ => shows⟩

/-- Every violation names the place of a rule that was applied there. -/
theorem check_locates_offenders (value : Value) (source : SchemaSource) (schema : Schema)
    (registry : Option Registry) (container : value.isContainer = true)
    (read : source.read = .ok schema) (addressable : value.Addressable)
    (known : ∀ given, registry = some given → given.OnlyJudges)
    (own : ∀ entry ∈ schema.table, Validation.OnlyJudges (entry.rule.validation.getD []))
    (found : List Violation) (checked : (check value source registry []).outcome = .ok found)
    (violation : Violation) (member : violation ∈ found) :
    ∃ located ∈ TableEntry.locatedChecks value [] schema.table,
      (located.outcome (knownTo registry)).outcome = .ok (some violation) ∧
      ∃ label, violation.path = .text label ∧ value.named label = located.target ∧
        (located.target = .null →
          violation.validator = .text "required" ∧ violation.value = .null) ∧
        (located.target ≠ .null → violation.Shows (registry.getD .bundled) located.target) ∧
        (∀ part ∈ cutAt '.' label.toList, part ≠ ['[', ']']) ∧
        (label = "$" ↔ located.place = []) := by
  rw [check_of_read container read] at checked
  obtain ⟨located, listed, ran⟩ := LocatedCheck.mem_found checked member
  obtain ⟨entry, inTable, fitting, target, rule⟩ := TableEntry.mem_located_checks listed
  have spelled := Schema.table_spelled read entry inTable
  have reached := spelled.reached fitting
  have judges : (registry.getD .bundled).OnlyJudges := by
    cases registry with
    | none => exact Registry.bundled_only_judges
    | some given => exact known given rfl
  have ownRule : Validation.OnlyJudges (located.rule.validation.getD []) := by
    rw [rule]
    exact own entry inTable
  obtain ⟨path, ofNull, ofPresent⟩ := LocatedCheck.outcome_violation judges ownRule ran
  have leads := Datum.named_label value reached (fitting.short spelled addressable)
  exact ⟨located, listed, ran, located.place.label, path, leads.trans target.symm, ofNull,
    ofPresent, Path.label_parts reached, Path.label_eq_dollar_iff reached⟩

/-- A row whose first key looks like a position. -/
def ledger : Value :=
  .mapping [("rows", .list [.mapping [("0", .integer 7), ("code", .bool true)]])]

def ledgerSchema : Schema :=
  [("rows", ⟨some .array, false, none, some
      [("0", ⟨none, false, some [("equals", .text "8")], none, true⟩),
       ("code", ⟨none, false, some [("open", .callable (.ofTest fun _ _ => .ok false))], none, true⟩),
       ("name", ⟨some .string, false, none, none, true⟩)], true⟩)]

theorem ledger_addressable : ledger.Addressable := by
  apply Datum.addressable_mapping
  rw [List.forall_mem_singleton]
  apply Datum.addressable_list
  · exact one_le_power_of_ten digitLimit
  · rw [List.forall_mem_singleton]
    apply Datum.addressable_mapping
    rw [List.forall_mem_cons, List.forall_mem_singleton]
    exact ⟨Datum.addressable_of_plain rfl, Datum.addressable_of_plain rfl⟩

theorem ledger_only_judges :
    ∀ entry ∈ ledgerSchema.table, Validation.OnlyJudges (entry.rule.validation.getD []) := by
  intro entry member name predicate given
  simp [ledgerSchema, Schema.table, Schema.tableAt, Schema.ruleTable] at member
  rcases member with same | same | same | same <;> simp [same] at given
  rw [given.2]
  exact Predicate.of_test_only_judges _

theorem ledger_offenders_located :
    (SchemaSource.ready ledgerSchema).read = .ok ledgerSchema ∧ ledger.Addressable ∧
      ∃ found, (check ledger (.ready ledgerSchema) none []).outcome = .ok found ∧
        found.map Violation.path = [.text "rows.0.0", .text "rows.0.code", .text "rows.0.name"] ∧
        ∀ violation ∈ found,
          ∃ located ∈ TableEntry.locatedChecks ledger [] ledgerSchema.table,
            ∃ label, violation.path = .text label ∧ ledger.named label = located.target := by
  refine ⟨rfl, ledger_addressable, _, rfl, rfl, ?_⟩
  intro violation member
  obtain ⟨located, listed, _, label, path, leads, _⟩ :=
    check_locates_offenders ledger (.ready ledgerSchema) ledgerSchema none rfl rfl
      ledger_addressable (fun given impossible => by cases impossible) ledger_only_judges _ rfl
      violation member
  exact ⟨located, listed, label, path, leads⟩

end DocumentRules
