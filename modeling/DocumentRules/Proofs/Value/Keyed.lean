import DocumentRules.Proofs.Path.Labels
import Mathlib.Data.List.Nodup

/-!
Values whose mappings do not repeat a key. A mapping that is built key by key never does, as a
known key takes the new datum. In such a mapping what is found under a key does not depend on
the order of the entries.
-/

set_option autoImplicit false

namespace DocumentRules.Datum

/-- No mapping inside of the value repeats a key. -/
inductive IsKeyed : Value → Prop
  | plain {value : Value} (plain : value.isContainer = false) : IsKeyed value
  | list {items : List Value} (each : ∀ item ∈ items, IsKeyed item) : IsKeyed (.list items)
  | mapping {entries : List (String × Value)} (distinct : (entries.map Prod.fst).Nodup)
      (each : ∀ entry ∈ entries, IsKeyed entry.2) : IsKeyed (.mapping entries)

@[simp]
theorem null_keyed : IsKeyed .null := .plain rfl

@[simp]
theorem integer_keyed (number : Int) : IsKeyed (.integer number) := .plain rfl

@[simp]
theorem text_keyed (written : String) : IsKeyed (.text written) := .plain rfl

@[simp]
theorem list_keyed_iff (items : List Value) :
    (Datum.list items).IsKeyed ↔ ∀ item ∈ items, item.IsKeyed := by
  constructor
  · intro keyed
    cases keyed with
    | plain plain => cases plain
    | list each => exact each
  · exact .list

@[simp]
theorem mapping_keyed_iff (entries : List (String × Value)) :
    (Datum.mapping entries).IsKeyed ↔
      (entries.map Prod.fst).Nodup ∧ ∀ entry ∈ entries, entry.2.IsKeyed := by
  constructor
  · intro keyed
    cases keyed with
    | plain plain => cases plain
    | mapping distinct each => exact ⟨distinct, each⟩
  · intro both
    exact .mapping both.1 both.2

theorem entry_none_iff (name : String) (entries : List (String × Value)) :
    entry? name entries = none ↔ name ∉ entries.map Prod.fst := by
  induction entries with
  | nil => simp [ entry?]
  | cons entry rest induction =>
      obtain ⟨own, item⟩ := entry
      by_cases same : own = name
      · simp [ entry?, same]
      · simp [ entry?, same, induction, Ne.symm same]

/-- Without repeated keys every entry can be found. -/
theorem entry_iff_mem {entries : List (String × Value)} (distinct : (entries.map Prod.fst).Nodup)
    (name : String) (item : Value) :
    entry? name entries = some item ↔ (name, item) ∈ entries := by
  constructor
  · exact mem_of_entry
  · intro member
    cases found : entry? name entries with
    | none =>
        have missing := (entry_none_iff name entries).mp found
        exact absurd (List.mem_map_of_mem member) missing
    | some other =>
        have same := List.inj_on_of_nodup_map distinct (mem_of_entry found) member rfl
        cases same
        rfl

theorem IsKeyed.step {value : Value} (keyed : value.IsKeyed) (segment : Segment) :
    (value.step segment).IsKeyed := by
  rcases step_inside value segment with none | ⟨items, rfl, inside⟩ | ⟨entries, name, rfl, inside⟩
  · rw [none]
    exact null_keyed
  · exact (list_keyed_iff items).mp keyed _ inside
  · exact ((mapping_keyed_iff entries).mp keyed).2 _ inside

end DocumentRules.Datum
