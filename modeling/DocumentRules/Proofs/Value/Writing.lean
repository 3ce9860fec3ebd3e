import DocumentRules.Proofs.Path.Labels
import DocumentRules.Value.Display

/-!
What can be written as text, and what is written as nothing. A datum cannot be written when
it is a whole number with too many digits, or holds one at any depth. A datum that does not
hold stands for the empty text, and there are few such data.
-/

set_option autoImplicit false

namespace DocumentRules.Datum

open Number

variable {κ : Type}

/-- The datum is a whole number with more digits than are written, or holds one. -/
inductive HoldsLong : Datum κ → Prop
  | integer {value : Int} (long : digitLimit < (naturalChars value.natAbs).length) :
      HoldsLong (.integer value)
  | item {items : List (Datum κ)} {item : Datum κ} (listed : item ∈ items)
      (own : HoldsLong item) : HoldsLong (.list items)
  | entry {entries : List (String × Datum κ)} {entry : String × Datum κ}
      (listed : entry ∈ entries) (own : HoldsLong entry.2) : HoldsLong (.mapping entries)

theorem all_writable_iff (items : List (Datum κ)) :
    areWritable items = true ↔ ∀ item ∈ items, item.isWritable = true := by
  induction items with
  | nil => simp [areWritable]
  | cons item rest induction => simp [areWritable, induction]

theorem all_entries_writable_iff (entries : List (String × Datum κ)) :
    entriesWritable entries = true ↔ ∀ entry ∈ entries, entry.2.isWritable = true := by
  induction entries with
  | nil => simp [entriesWritable]
  | cons entry rest induction => simp [entriesWritable, induction]

theorem integer_writable_iff (value : Int) :
    (Datum.integer value : Datum κ).isWritable = true ↔
      (naturalChars value.natAbs).length ≤ digitLimit := by
  rw [isWritable, decide_eq_true_eq]

theorem HoldsLong.unwritable {datum : Datum κ} (holds : datum.HoldsLong) :
    datum.isWritable = false := by
  rw [← Bool.not_eq_true]
  induction holds with
  | integer long =>
      rw [integer_writable_iff]
      exact Nat.not_le.mpr long
  | item listed _ induction =>
      rw [isWritable, all_writable_iff]
      exact fun all => induction (all _ listed)
  | entry listed _ induction =>
      rw [isWritable, all_entries_writable_iff]
      exact fun all => induction (all _ listed)

mutual

theorem writable_of_short : (datum : Datum κ) → ¬datum.HoldsLong → datum.isWritable = true
  | .integer value, short => by
      rw [integer_writable_iff]
      exact Nat.not_lt.mp fun long => short (.integer long)
  | .list items, short => items_writable items fun _ listed own => short (.item listed own)
  | .mapping entries, short =>
      entries_writable entries fun _ listed own => short (.entry listed own)
  | .null, _ => rfl
  | .bool _, _ => rfl
  | .float _, _ => rfl
  | .text _, _ => rfl
  | .callable _, _ => rfl

theorem items_writable : (items : List (Datum κ)) → (∀ item ∈ items, ¬item.HoldsLong) →
    areWritable items = true
  | [], _ => rfl
  | item :: rest, short => by
      obtain ⟨own, others⟩ := List.forall_mem_cons.mp short
      rw [areWritable, writable_of_short item own, items_writable rest others]
      rfl

theorem entries_writable : (entries : List (String × Datum κ)) →
    (∀ entry ∈ entries, ¬entry.2.HoldsLong) → entriesWritable entries = true
  | [], _ => rfl
  | (key, item) :: rest, short => by
      obtain ⟨own, others⟩ := List.forall_mem_cons.mp short
      rw [entriesWritable, writable_of_short item own, entries_writable rest others]
      rfl

end

theorem writable_iff (datum : Datum κ) : datum.isWritable = true ↔ ¬datum.HoldsLong := by
  refine ⟨?_, datum.writable_of_short⟩
  intro writable long
  rw [long.unwritable] at writable
  cases writable

theorem unwritable_iff (datum : Datum κ) : datum.isWritable = false ↔ datum.HoldsLong := by
  rw [← Bool.not_eq_true, writable_iff, Classical.not_not]

/-- What lies inside of a value holds nothing that the value does not hold. -/
theorem HoldsLong.of_step {value : Value} {segment : Segment}
    (holds : (value.step segment).HoldsLong) : value.HoldsLong := by
  rcases step_inside value segment with none | ⟨items, rfl, inside⟩ | ⟨entries, name, rfl, inside⟩
  · rw [none] at holds
    cases holds
  · exact .item inside holds
  · exact .entry inside holds

theorem HoldsLong.of_follow {value : Value} {path : Path}
    (holds : (value.follow path).HoldsLong) : value.HoldsLong := by
  induction path generalizing value with
  | nil => exact holds
  | cons segment rest induction => exact (induction holds).of_step

/-- Null, false, a zero, and an empty text or container. -/
inductive IsNothing : Datum κ → Prop
  | null : IsNothing .null
  | false : IsNothing (.bool false)
  | zero : IsNothing (.integer 0)
  | floatZero {value : Binary64} (zero : value.isZero = true) : IsNothing (.float value)
  | text : IsNothing (.text "")
  | list : IsNothing (.list [])
  | mapping : IsNothing (.mapping [])

theorem not_holds_iff (datum : Datum κ) : datum.holds = false ↔ datum.IsNothing := by
  constructor
  · intro empty
    cases datum with
    | null => exact .null
    | bool truth =>
        cases truth with
        | true => cases empty
        | false => exact .false
    | integer value =>
        obtain rfl : value = 0 := by simpa [holds] using empty
        exact .zero
    | float value => exact .floatZero (by simpa [holds] using empty)
    | text value =>
        obtain rfl : value = "" := by simpa [holds] using empty
        exact .text
    | list items =>
        obtain rfl : items = [] := by simpa [holds] using empty
        exact .list
    | mapping entries =>
        obtain rfl : entries = [] := by simpa [holds] using empty
        exact .mapping
    | callable behind => cases empty
  · intro nothing
    cases nothing with
    | floatZero zero => rw [holds, zero]; rfl
    | _ => rfl

end DocumentRules.Datum
