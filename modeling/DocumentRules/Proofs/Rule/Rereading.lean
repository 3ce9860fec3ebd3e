import DocumentRules.Proofs.Rule.Names

/-!
Reading again what has been read. A reading leaves no field without a name, and names are
all that is looked at in rules that are ready; so however often a schema is read, in every
way in which it can be handed over, the rules and their table stay what they were.
-/

set_option autoImplicit false

namespace DocumentRules

namespace Schema

/-- A rule is built anew around the fields inside it and keeps everything else. -/
theorem reread_named_steps :
    Hereditary
      (fun fields => HasNames fields → ∀ place, rereadRules place fields = .ok fields)
      (fun rule => RuleHasNames rule → ∀ place, rereadRule place rule = .ok rule) where
  nil := by
    intro _ place
    rfl
  cons := by
    intro key rule rest ofRule ofRest named place
    obtain ⟨keyNamed, ruleNamed, restNamed⟩ := named
    rw [rereadRules, if_neg keyNamed, ofRule ruleNamed, ofRest restNamed]
    rfl
  flat := by
    intro tag allowNull validation enforced _ place
    rfl
  deep := by
    intro tag allowNull validation inner enforced ofInner named place
    rw [rereadRule, ofInner named]
    rfl

theorem reread_of_names {schema : Schema} (named : HasNames schema) :
    schema.reread = .ok schema :=
  reread_named_steps.fields schema named ""

theorem reread_times_of_names {schema : Schema} (named : HasNames schema) (times : Nat) :
    rereadTimes times schema = .ok schema := by
  induction times with
  | zero => rfl
  | succ times induction =>
      rw [rereadTimes, reread_of_names named]
      exact induction

end Schema

theorem SchemaSource.ready_table {schema : Schema} (named : Schema.HasNames schema) :
    (SchemaSource.ready schema).table = .ok schema.table := by
  rw [table, read, Schema.reread_of_names named]
  rfl

/-- A schema that has been read once and then any number of times more is the schema that was
read first, fault or not, and its table is the table of what was handed over. -/
theorem SchemaSource.reading_again_changes_nothing (source : SchemaSource) (times : Nat) :
    source.read.bind (Schema.rereadTimes times) = source.read ∧
      ((source.read.bind (Schema.rereadTimes times)).bind fun schema =>
        (SchemaSource.ready schema).table) = source.table := by
  have again : source.read.bind (Schema.rereadTimes times) = source.read := by
    cases made : source.read with
    | error fault => rfl
    | ok schema => exact Schema.reread_times_of_names (names_of_read made) times
  refine ⟨again, ?_⟩
  rw [again, SchemaSource.table]
  cases made : source.read with
  | error fault => rfl
  | ok schema => exact ready_table (names_of_read made)

end DocumentRules
