import DocumentRules.Check
import DocumentRules.Proofs.Run.Results
import DocumentRules.Proofs.Walk.Located

/-!
Checking a container against a schema that can be read is running the located checks
of the schema's table. It returns exactly when all of them do, and every violation it
returns is the outcome of one of them.
-/

set_option autoImplicit false

namespace DocumentRules

/-- What is known to a check without a registry. -/
abbrev bundledOnly : Vocabulary := knownTo none

theorem SchemaSource.mapping_of_read {source : SchemaSource} {schema : Schema}
    (read : source.read = .ok schema) : source.isMapping = true := by
  cases source with
  | declared given =>
      cases given with
      | mapping entries => rfl
      | _ => cases read
  | linked graph => rfl
  | ready schema => rfl

theorem SchemaSource.table_for_of_read {source : SchemaSource} {schema : Schema} {value : Value}
    (container : value.isContainer = true) (read : source.read = .ok schema) :
    source.tableFor value = .ok schema.table := by
  rw [tableFor, container, mapping_of_read read, table, read]
  rfl

/-- A table can be made for containers only, and only of a schema that can be read. -/
theorem SchemaSource.read_of_table_for {source : SchemaSource} {value : Value}
    {entries : List TableEntry} (tabled : source.tableFor value = .ok entries) :
    value.isContainer = true ∧ ∃ schema, source.read = .ok schema ∧ schema.table = entries := by
  rw [tableFor] at tabled
  split at tabled
  · cases tabled
  · rename_i container
    split at tabled
    · cases tabled
    · refine ⟨by simpa using container, ?_⟩
      rw [table] at tabled
      cases read : source.read with
      | error fault =>
          rw [read] at tabled
          cases tabled
      | ok schema =>
          rw [read] at tabled
          exact ⟨schema, rfl, Except.ok.inj tabled⟩

theorem check_of_read {value : Value} {source : SchemaSource} {schema : Schema}
    (container : value.isContainer = true) (read : source.read = .ok schema)
    (registry : Option Registry) (place : Path) :
    check value source registry place =
      Run.flatMap (TableEntry.locatedChecks value place schema.table)
        (LocatedCheck.found (knownTo registry)) := by
  rw [check, SchemaSource.table_for_of_read container read]
  exact (Run.bind_pure schema.table _).trans (Walk.table_checks (knownTo registry) value place _)

/-- A check that returns is one of a container against a schema that can be read. -/
theorem located_of_check {value : Value} {source : SchemaSource} {registry : Option Registry}
    {place : Path} {found : List Violation}
    (checked : (check value source registry place).outcome = .ok found) :
    ∃ schema, source.read = .ok schema ∧ value.isContainer = true ∧
      (Run.flatMap (TableEntry.locatedChecks value place schema.table)
        (LocatedCheck.found (knownTo registry))).outcome = .ok found := by
  obtain ⟨entries, tabled, _⟩ := (Run.bind_ok_iff _ _ _).mp checked
  obtain ⟨container, schema, read, _⟩ := SchemaSource.read_of_table_for tabled
  rw [check_of_read container read] at checked
  exact ⟨schema, read, container, checked⟩

namespace LocatedCheck

theorem found_ok_iff (words : Vocabulary) (check : LocatedCheck)
    (found : List Violation) :
    (check.found words).outcome = .ok found ↔
      ∃ violation, (check.outcome words).outcome = .ok violation ∧ found = violation.toList :=
  Run.bind_pure_ok_iff (check.outcome words) Option.toList found

theorem found_succeeds (words : Vocabulary) (check : LocatedCheck) :
    (check.found words).Succeeds ↔ (check.outcome words).Succeeds :=
  Run.succeeds_bind_pure (check.outcome words) Option.toList

theorem mem_found {words : Vocabulary} {checks : List LocatedCheck}
    {found : List Violation}
    (outcome : (Run.flatMap checks (LocatedCheck.found words)).outcome = .ok found)
    {violation : Violation} (member : violation ∈ found) :
    ∃ check ∈ checks, (check.outcome words).outcome = .ok (some violation) := by
  obtain ⟨all, rfl⟩ := (Run.flat_map_ok_iff checks _ found).mp outcome
  obtain ⟨check, listed, inside⟩ := List.mem_flatMap.mp member
  obtain ⟨given, ran, same⟩ :=
    (found_ok_iff words check _).mp (Run.outcome_of_succeeds (all check listed))
  refine ⟨check, listed, ?_⟩
  rw [same, Option.mem_toList] at inside
  rw [ran, inside]

end LocatedCheck

/-- Without regard to their order, the checks of a table are those of its entries. -/
theorem TableEntry.located_checks_perm (value : Value) (place : Path)
    (entries : List TableEntry) :
    (locatedChecks value place entries).Perm (entries.flatMap (runningChecks value place)) := by
  rw [located_checks_flat]
  apply List.Perm.flatMap_right
  have split := List.filter_append_perm (fun entry : TableEntry => !entry.path.hasEvery) entries
  simpa only [Bool.not_not] using split

end DocumentRules
