import DocumentRules.Proofs.Path.Labels

/-!
Keys and paths as two forms of the same thing. Every segment that a key can spell is written as
a part without a point, and the part is read as the segment again, whether the sign for every
element is written in its short or in its long form. So a path is read back from its key, and a
key that is read and written again is in a normal form, which all keys for one path share.
-/

set_option autoImplicit false

namespace DocumentRules.Path

open Text

/-- A segment that a key can spell has a part, which is read as the segment. -/
theorem part_of_spelled {segment : Segment} (spelled : segment.IsSpelled) (alone : Bool) :
    ∃ part, partOf? alone false segment = some part ∧ '.' ∉ part ∧
      Segment.ofName (String.ofList part) = segment := by
  cases segment with
  | field name =>
      refine ⟨name.toList, rfl, spelled.1, ?_⟩
      rw [String.ofList_toList]
      exact Segment.of_name_of_spelled spelled
  | index position => exact False.elim spelled
  | flag truth => exact False.elim spelled
  | every =>
      cases alone with
      | true => exact ⟨['$'], rfl, by decide, rfl⟩
      | false => exact ⟨['[', ']'], rfl, by decide, rfl⟩

theorem parts_clean {path : Path} (spelled : ∀ segment ∈ path, segment.IsSpelled) (alone : Bool) :
    ∀ part ∈ path.filterMap (partOf? alone false), '.' ∉ part := by
  intro part member
  obtain ⟨segment, inside, written⟩ := List.mem_filterMap.mp member
  obtain ⟨own, ownWritten, clean, _⟩ := part_of_spelled (spelled segment inside) alone
  cases ownWritten.symm.trans written
  exact clean

theorem parts_read_back {path : Path} (spelled : ∀ segment ∈ path, segment.IsSpelled)
    (alone : Bool) :
    ((path.filterMap (partOf? alone false)).map fun part =>
      Segment.ofName (String.ofList part)) = path := by
  induction path with
  | nil => rfl
  | cons segment rest induction =>
      obtain ⟨own, later⟩ := List.forall_mem_cons.mp spelled
      obtain ⟨part, written, _, back⟩ := part_of_spelled own alone
      rw [List.filterMap_cons_some written, List.map_cons, back, induction later]

theorem spelled_path_read_back {path : Path} (nonempty : path ≠ [])
    (spelled : ∀ segment ∈ path, segment.IsSpelled) : ofKey path.key = path := by
  have back := parts_read_back spelled (path.length == 1)
  have parts : path.filterMap (partOf? (path.length == 1) false) ≠ [] := by
    intro none
    rw [none] at back
    exact nonempty back.symm
  rw [ofKey, key, writtenAs, String.toList_ofList,
    cut_at_joined '.' _ parts (parts_clean spelled _)]
  exact back

/-- The key that is written for the path that a key spells. -/
def normalKey (key : String) : String := (ofKey key).key

theorem normal_key_spells (key : String) : ofKey (normalKey key) = ofKey key :=
  spelled_path_read_back (of_key_nonempty key) (of_key_spelled key)

/-- Two keys are written alike exactly when they spell the same path. -/
theorem normal_key_eq_iff (key other : String) :
    normalKey key = normalKey other ↔ ofKey key = ofKey other := by
  constructor
  · intro same
    rw [← normal_key_spells key, same, normal_key_spells]
  · exact congrArg Path.key

/-- A path of names and signs for every element is read back from its key, and a key that is read
and written again spells the same path and is written in the same way ever after. -/
theorem keys_read_back :
    (∀ path : Path, path ≠ [] → (∀ segment ∈ path, segment.IsSpelled) → ofKey path.key = path) ∧
      (∀ key, ofKey (ofKey key).key = ofKey key) ∧
      ∀ key, normalKey (normalKey key) = normalKey key := by
  refine ⟨fun path nonempty spelled => spelled_path_read_back nonempty spelled,
    normal_key_spells, ?_⟩
  intro key
  exact (normal_key_eq_iff _ _).mpr (normal_key_spells key)

def tagsPath : Path := [.field "", .every, .field "tags", .every]

theorem tags_path_read_back :
    (∀ segment ∈ tagsPath, segment.IsSpelled) ∧ tagsPath.key = ".[].tags.[]" ∧
      ofKey ".[].tags.[]" = tagsPath ∧
      normalKey ".$.tags.[]" = ".[].tags.[]" ∧ ofKey ".$.tags.[]" = tagsPath ∧
      normalKey "[]" = "$" ∧ normalKey "$" = "$" := by
  have spelled : ∀ segment ∈ tagsPath, segment.IsSpelled := by
    simp [tagsPath, Segment.IsSpelled]
  obtain ⟨paths, keys, normal⟩ := keys_read_back
  have written : tagsPath.key = ".[].tags.[]" := rfl
  have back := paths tagsPath (List.cons_ne_nil _ _) spelled
  refine ⟨spelled, written, back, rfl, ?_, rfl, normal "[]"⟩
  exact (keys ".$.tags.[]").symm.trans back

end DocumentRules.Path
