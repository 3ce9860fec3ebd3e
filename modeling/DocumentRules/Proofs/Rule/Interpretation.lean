import DocumentRules.Proofs.Check.Located
import DocumentRules.Proofs.Path.Keys
import DocumentRules.Proofs.Rule.Induction
import Mathlib.Data.List.Perm.Basic

/-!
A schema as its own interpreter. It goes down the tree of rules and the value together:
a key leads from a container to places inside it, an object rule goes on at each of
them, an array rule at each element found there, and an enforced rule is applied. No
table is made. Checking by way of the table finds the same violations in another order,
and it ends in a fault exactly when some rule's check does.
-/

set_option autoImplicit false

namespace DocumentRules.Schema

variable (words : Vocabulary)

mutual

def interpretFields : List (String × Rule) → Value → Path → Run (List Violation)
  | [], _, _ => Run.pure []
  | (key, rule) :: rest, value, place =>
      Run.appended
        [Run.flatMap ((Path.ofField key).places value) fun (inner, target) =>
          interpretRule rule target (place ++ inner),
         interpretFields rest value place]

/-- The violations of what lies inside a target, then those of the target. -/
def interpretRule : Rule → Value → Path → Run (List Violation)
  | ⟨tag, allowNull, validation, fields, enforced⟩, target, place =>
      Run.appended
        [match tag, fields with
          | some .object, some inner => interpretFields inner target place
          | some .array, some inner =>
              match target with
              | .list items =>
                  Run.flatMap (Walk.numbered 0 items) fun (position, item) =>
                    interpretFields inner item (place ++ [.index position])
              | _ => Run.pure []
          | _, _ => Run.pure [],
         if enforced then
           LocatedCheck.found words ⟨place, target, tag, allowNull, validation, fields, enforced⟩
         else Run.pure []]

end

def interpret (schema : Schema) (value : Value) (place : Path) : Run (List Violation) :=
  interpretFields words schema value place

mutual

def fieldChecks : List (String × Rule) → Value → Path → List LocatedCheck
  | [], _, _ => []
  | (key, rule) :: rest, value, place =>
      (((Path.ofField key).places value).flatMap fun (inner, target) =>
        ruleChecks rule target (place ++ inner)) ++ fieldChecks rest value place

def ruleChecks : Rule → Value → Path → List LocatedCheck
  | ⟨tag, allowNull, validation, fields, enforced⟩, target, place =>
      (match tag, fields with
        | some .object, some inner => fieldChecks inner target place
        | some .array, some inner =>
            match target with
            | .list items =>
                (Walk.numbered 0 items).flatMap fun (position, item) =>
                  fieldChecks inner item (place ++ [.index position])
            | _ => []
        | _, _ => []) ++
      if enforced then [⟨place, target, tag, allowNull, validation, fields, enforced⟩] else []

end

def checks (schema : Schema) (value : Value) (place : Path) : List LocatedCheck :=
  fieldChecks schema value place

theorem interpret_of_other (rule : Rule) (other : rule.isNested = false) (target : Value)
    (place : Path) :
    interpretRule words rule target place =
      Run.appended [Run.pure [],
        if rule.enforced then LocatedCheck.found words ⟨place, target, rule⟩
        else Run.pure []] := by
  obtain ⟨tag, allowNull, validation, fields, enforced⟩ := rule
  rw [interpretRule]
  · exact not_object_of_other other
  · exact not_array_of_other other

theorem checks_of_other (rule : Rule) (other : rule.isNested = false) (target : Value)
    (place : Path) :
    ruleChecks rule target place = if rule.enforced then [⟨place, target, rule⟩] else [] := by
  obtain ⟨tag, allowNull, validation, fields, enforced⟩ := rule
  rw [ruleChecks, List.nil_append]
  · exact not_object_of_other other
  · exact not_array_of_other other

/-- An array rule goes on at the places of the sign for every element. -/
theorem checks_of_array (allowNull : Bool) (validation : Option Validation)
    (inner : List (String × Rule)) (enforced : Bool) (target : Value) (place : Path) :
    ruleChecks ⟨some .array, allowNull, validation, some inner, enforced⟩ target place =
      ((Path.places [.every] target).flatMap fun element =>
        fieldChecks inner element.2 (place ++ element.1)) ++
      if enforced then
        [⟨place, target, some .array, allowNull, validation, some inner, enforced⟩]
      else [] := by
  cases target with
  | list items =>
      simp only [ruleChecks, Path.places, List.flatMap_assoc, List.map_cons, List.map_nil,
        List.flatMap_singleton]
  | _ => simp only [ruleChecks, Path.places, List.flatMap_nil]

theorem appended_flat_maps {α β : Type} (left right : List β) (each : β → Run (List α)) :
    Run.appended [Run.flatMap left each, Run.flatMap right each] =
      Run.flatMap (left ++ right) each := by
  simp only [Run.appended, Run.bind_pure, List.append_nil, Run.bind_pure_right,
    Run.flat_map_append]

theorem own_check (enforced : Bool) (check : LocatedCheck) :
    (if enforced then check.found words else Run.pure []) =
      Run.flatMap (if enforced then [check] else []) (LocatedCheck.found words) := by
  cases enforced with
  | false => rfl
  | true => exact (Run.flat_map_single check (LocatedCheck.found words)).symm

theorem interpret_steps :
    Nesting
      (fun fields => ∀ value place, interpretFields words fields value place =
        Run.flatMap (fieldChecks fields value place) (LocatedCheck.found words))
      (fun rule => ∀ target place, interpretRule words rule target place =
        Run.flatMap (ruleChecks rule target place) (LocatedCheck.found words)) where
  nil := by
    intro value place
    rfl
  cons := by
    intro key rule rest ofRule ofRest value place
    rw [interpretFields, fieldChecks, ← appended_flat_maps, ofRest]
    simp only [ofRule, Run.flat_map_flat_map]
  object := by
    intro allowNull validation inner enforced ofInner target place
    rw [interpretRule, ruleChecks, ← appended_flat_maps, ofInner, own_check]
  array := by
    intro allowNull validation inner enforced ofInner target place
    cases target with
    | list items =>
        rw [interpretRule, ruleChecks, ← appended_flat_maps, own_check]
        simp only [ofInner, Run.flat_map_flat_map]
    | _ =>
        simp only [interpretRule, ruleChecks, own_check]
        exact appended_flat_maps [] _ _
  other := by
    intro rule other target place
    rw [interpret_of_other words rule other, checks_of_other rule other, own_check]
    exact appended_flat_maps [] _ _

theorem interpret_checks (schema : Schema) (value : Value) (place : Path) :
    schema.interpret words value place =
      Run.flatMap (schema.checks value place) (LocatedCheck.found words) :=
  (interpret_steps words).hereditary.fields schema value place

/-- The checks of one entry are those of its rule at every place of its path. -/
theorem own_checks_of_path (value : Value) (place path : Path) (enforced : Bool) (rule : Rule) :
    (if enforced then [TableEntry.mk path rule] else []).flatMap
        (TableEntry.runningChecks value place) =
      (path.places value).flatMap fun reached =>
        if enforced then [LocatedCheck.mk (place ++ reached.1) reached.2 rule] else [] := by
  cases enforced with
  | false => simp
  | true =>
      rw [if_pos rfl, List.flatMap_singleton, TableEntry.runningChecks, Path.places_instances,
        List.flatMap_map]
      simp only [if_true, ← List.map_eq_flatMap]

/-- The checks of a table at the places of an origin are those of interpreting from there, in
another order. -/
theorem table_checks_steps (value : Value) (place : Path) :
    Nesting
      (fun fields => ∀ origin : Path,
        ((tableAt origin fields).flatMap (TableEntry.runningChecks value place)).Perm
          ((origin.places value).flatMap fun reached =>
            fieldChecks fields reached.2 (place ++ reached.1)))
      (fun rule => ∀ path : Path,
        ((ruleTable path rule).flatMap (TableEntry.runningChecks value place)).Perm
          ((path.places value).flatMap fun reached =>
            ruleChecks rule reached.2 (place ++ reached.1))) where
  nil := by
    intro origin
    simp [tableAt, fieldChecks]
  cons := by
    intro key rule rest ofRule ofRest origin
    rw [tableAt, List.flatMap_append, Path.extend_of_field]
    -- The table takes rule after rule, each at all places; interpreting takes place after place,
    -- each with all rules.
    simp only [fieldChecks]
    refine List.Perm.trans ((ofRule _).append (ofRest origin)) ?_
    refine List.Perm.trans (List.Perm.of_eq ?_) (List.flatMap_append_perm _ _ _)
    rw [Path.places_append, List.flatMap_assoc]
    simp only [List.flatMap_map, List.append_assoc]
  object := by
    intro allowNull validation inner enforced ofInner path
    rw [ruleTable, List.flatMap_append]
    simp only [ruleChecks]
    refine List.Perm.trans ?_ (List.flatMap_append_perm _ _ _)
    refine (ofInner path).append (List.Perm.of_eq ?_)
    exact own_checks_of_path value place path enforced _
  array := by
    intro allowNull validation inner enforced ofInner path
    rw [ruleTable, List.flatMap_append]
    simp only [checks_of_array, List.append_assoc]
    refine List.Perm.trans ?_ (List.flatMap_append_perm _ _ _)
    refine List.Perm.append ?_ (List.Perm.of_eq ?_)
    · refine (ofInner (path ++ [.every])).trans (List.Perm.of_eq ?_)
      rw [Path.places_append, List.flatMap_assoc]
      simp only [List.flatMap_map]
    · exact own_checks_of_path value place path enforced _
  other := by
    intro rule other path
    rw [table_of_other path rule other]
    simp only [checks_of_other rule other]
    exact List.Perm.of_eq (own_checks_of_path value place path rule.enforced rule)

theorem located_checks_perm (schema : Schema) (value : Value) (place : Path) :
    (TableEntry.locatedChecks value place schema.table).Perm (schema.checks value place) := by
  refine (TableEntry.located_checks_perm value place schema.table).trans ?_
  have whole := (table_checks_steps value place).hereditary.fields schema []
  simpa [Path.places, table, checks] using whole

/-- Checking by way of the table finds what interpreting the schema finds, in some order. Either
every rule's check returns at every place and both return, or some rule's check ends in a fault
and neither returns. -/
theorem check_permutes_interpretation (value : Value) (source : SchemaSource) (schema : Schema)
    (registry : Option Registry) (place : Path) (container : value.isContainer = true)
    (read : source.read = .ok schema) :
    ((∀ located ∈ schema.checks value place, (located.outcome (knownTo registry)).Succeeds) ∧
        ∃ found expected, (check value source registry place).outcome = .ok found ∧
          (schema.interpret (knownTo registry) value place).outcome = .ok expected ∧
          found.Perm expected) ∨
      ((∃ located ∈ schema.checks value place,
          ¬(located.outcome (knownTo registry)).Succeeds) ∧
        ¬(check value source registry place).Succeeds ∧
        ¬(schema.interpret (knownTo registry) value place).Succeeds) := by
  have perm := located_checks_perm schema value place
  rw [check_of_read container read, interpret_checks, Run.succeeds_flat_map,
    Run.succeeds_flat_map]
  simp only [LocatedCheck.found_succeeds]
  by_cases all : ∀ located ∈ schema.checks value place,
      (located.outcome (knownTo registry)).Succeeds
  · left
    refine ⟨all, ?_⟩
    have succeeds : (Run.flatMap (schema.checks value place)
        (LocatedCheck.found (knownTo registry))).Succeeds := by
      simpa only [Run.succeeds_flat_map, LocatedCheck.found_succeeds] using all
    obtain ⟨expected, interpreted⟩ := succeeds
    obtain ⟨found, checked, same⟩ := Run.flat_map_perm perm.symm _ interpreted
    exact ⟨found, expected, checked, interpreted, same.symm⟩
  · right
    refine ⟨by simpa using all, ?_, all⟩
    intro direct
    exact all fun located member => direct located (perm.mem_iff.mpr member)

/-- A team with a name of the wrong kind, an empty seat and no size. -/
def team : Value :=
  .mapping [("roles", .list [.mapping [("name", .integer 1)], .null])]

def teamRules : Declaration :=
  .mapping
    [("roles", .mapping
      [("type", .text "array"),
       ("schema", .mapping [("name", .mapping [("type", .text "string")])])]),
     ("size", .mapping [("type", .text "integer")])]

def teamSchema : Schema :=
  [("roles", ⟨some .array, false, none,
      some [("name", ⟨some .string, false, none, none, true⟩)], true⟩),
   ("size", ⟨some .integer, false, none, none, true⟩)]

theorem team_check_permutes :
    team.isContainer = true ∧ (SchemaSource.declared teamRules).read = .ok teamSchema ∧
      ∃ found expected,
        (check team (.declared teamRules) none []).outcome = .ok found ∧
        (teamSchema.interpret (knownTo none) team []).outcome = .ok expected ∧
        found.map Violation.path =
          [.text "size", .text "roles.0.name", .text "roles.1.name"] ∧
        found.Perm expected := by
  refine ⟨rfl, rfl, ?_⟩
  rcases check_permutes_interpretation team (.declared teamRules) teamSchema none [] rfl rfl with
    ⟨_, found, expected, checked, interpreted, same⟩ | ⟨_, fails, _⟩
  · refine ⟨found, expected, checked, interpreted, ?_, same⟩
    cases checked
    rfl
  · exact absurd ⟨_, rfl⟩ fails

end DocumentRules.Schema
