import DocumentRules.Json.Reader
import DocumentRules.Proofs.Number.Decimal
import DocumentRules.Proofs.Number.Rounding
import DocumentRules.Proofs.Run.Results

/-!
What can stand in a document, and that the reader gives nothing else: whole numbers with no
more digits than are converted, floating-point numbers in the form in which they are kept,
mappings without repeated keys, and nothing that can be called.
-/

set_option autoImplicit false

namespace DocumentRules

open Number Text

variable {κ : Type}

namespace Datum

inductive IsDocument : Datum κ → Prop where
  | null : IsDocument .null
  | bool (truth : Bool) : IsDocument (.bool truth)
  | integer {value : Int} (short : (naturalChars value.natAbs).length ≤ digitLimit) :
      IsDocument (.integer value)
  | float {value : Binary64} (kept : value.IsKept) : IsDocument (.float value)
  | text (value : String) : IsDocument (.text value)
  | list {items : List (Datum κ)} (each : ∀ item ∈ items, IsDocument item) :
      IsDocument (.list items)
  | mapping {entries : List (String × Datum κ)} (distinct : (entries.map Prod.fst).Nodup)
      (each : ∀ entry ∈ entries, IsDocument entry.2) : IsDocument (.mapping entries)

theorem list_document_iff (items : List (Datum κ)) :
    (Datum.list items).IsDocument ↔ ∀ item ∈ items, item.IsDocument := by
  constructor
  · intro document
    cases document with
    | list each => exact each
  · exact .list

theorem mapping_document_iff (entries : List (String × Datum κ)) :
    (Datum.mapping entries).IsDocument ↔
      (entries.map Prod.fst).Nodup ∧ ∀ entry ∈ entries, entry.2.IsDocument := by
  constructor
  · intro document
    cases document with
    | mapping distinct each => exact ⟨distinct, each⟩
  · intro both
    exact .mapping both.1 both.2

theorem mem_insert_entry {key : String} {item : Datum κ} {entries : List (String × Datum κ)}
    {entry : String × Datum κ} (member : entry ∈ insertEntry key item entries) :
    entry = (key, item) ∨ entry ∈ entries := by
  induction entries with
  | nil => exact Or.inl (List.mem_singleton.mp member)
  | cons first rest induction =>
      obtain ⟨own, old⟩ := first
      rw [insertEntry] at member
      split at member
      · rcases List.mem_cons.mp member with same | later
        · exact Or.inl same
        · exact Or.inr (List.mem_cons_of_mem _ later)
      · rcases List.mem_cons.mp member with same | later
        · exact Or.inr (same ▸ List.mem_cons_self)
        · rcases induction later with same | inside
          · exact Or.inl same
          · exact Or.inr (List.mem_cons_of_mem _ inside)

theorem nodup_insert_entry (key : String) (item : Datum κ) {entries : List (String × Datum κ)}
    (distinct : (entries.map Prod.fst).Nodup) :
    ((insertEntry key item entries).map Prod.fst).Nodup := by
  rw [keys_insert]
  split
  · exact distinct
  · rename_i fresh
    exact List.nodup_append.mpr
      ⟨distinct, List.nodup_singleton key, fun own inside other last same =>
        fresh (List.mem_singleton.mp last ▸ same ▸ inside)⟩

theorem IsDocument.entry {key : String} {entries : List (String × Datum κ)} {item : Datum κ}
    (each : ∀ entry ∈ entries, entry.2.IsDocument) (found : entry? key entries = some item) :
    item.IsDocument := by
  induction entries with
  | nil => cases found
  | cons first rest induction =>
      obtain ⟨own, datum⟩ := first
      unfold entry? at found
      split at found
      · cases found
        exact each _ List.mem_cons_self
      · exact induction (fun entry inside => each entry (List.mem_cons_of_mem _ inside)) found

theorem IsDocument.get {datum : Datum κ} (document : datum.IsDocument) (key : String) :
    (datum.getOrNull key).IsDocument := by
  cases document with
  | mapping distinct each =>
      rw [getOrNull, get?]
      cases found : entry? key _ with
      | none => exact .null
      | some item => exact IsDocument.entry each found
  | _ => exact .null

end Datum

namespace Json

open Datum

/-! ## Numbers -/

theorem take_digits_plain (text : List Char) : ∀ c ∈ (takeDigits text).1, isJsonDigit c = true := by
  rw [takeDigits, List.span_eq_takeWhile_dropWhile]
  intro c member
  exact List.all_eq_true.mp List.all_takeWhile c member

theorem whole_part_plain {text digits rest : List Char}
    (found : wholePart? text = some (digits, rest)) : ∀ c ∈ digits, isJsonDigit c = true := by
  unfold wholePart? at found
  split at found
  · cases found
    exact List.forall_mem_singleton.mpr rfl
  · have plain := take_digits_plain text
    split at found
    · cases found
    · rw [Option.some.inj found] at plain
      exact plain

theorem number_text_whole {text rest : List Char} {number : NumberText}
    (found : numberText? text = some (number, rest)) :
    ∀ c ∈ number.whole, isJsonDigit c = true := by
  unfold numberText? at found
  simp only [Option.bind_eq_bind, Option.bind_eq_some_iff, Option.pure_def] at found
  obtain ⟨⟨digits, later⟩, whole, same⟩ := found
  cases same
  exact whole_part_plain whole

theorem digits_value_eq (digits : List Char) :
    digitsValue digits = Nat.ofDigitChars 10 digits 0 := by
  rw [digitsValue, Nat.ofDigitChars]
  congr 1
  funext value c
  rw [Nat.mul_comm]
  rfl

theorem json_digit_bounds {c : Char} (digit : isJsonDigit c = true) :
    48 ≤ c.toNat ∧ c.toNat ≤ 57 := by
  simpa [isJsonDigit, isPlainDigit] using digit

theorem of_digit_chars_lt (digits : List Char) (plain : ∀ c ∈ digits, isJsonDigit c = true)
    (value : Nat) :
    Nat.ofDigitChars 10 digits value < (value + 1) * Nat.pow 10 digits.length := by
  induction digits generalizing value with
  | nil => simp
  | cons c rest induction =>
      have bounds := json_digit_bounds (plain c List.mem_cons_self)
      have later := induction (fun other member => plain other (List.mem_cons_of_mem c member))
        (10 * value + (c.toNat - '0'.toNat))
      have digit : c.toNat - '0'.toNat ≤ 9 := by
        change c.toNat - 48 ≤ 9
        omega
      rw [Nat.ofDigitChars_cons]
      calc Nat.ofDigitChars 10 rest (10 * value + (c.toNat - '0'.toNat))
          < (10 * value + (c.toNat - '0'.toNat) + 1) * Nat.pow 10 rest.length := later
        _ ≤ ((value + 1) * 10) * Nat.pow 10 rest.length :=
            Nat.mul_le_mul_right _ (by omega)
        _ = (value + 1) * Nat.pow 10 (c :: rest).length := by
            rw [List.length_cons, Nat.pow_eq, Nat.pow_eq, Nat.pow_succ, Nat.mul_assoc,
              Nat.mul_comm 10]

theorem number_document {text rest : List Char} {number : NumberText} {datum : Datum κ}
    (found : numberText? text = some (number, rest)) (made : number.value = .ok datum) :
    datum.IsDocument := by
  have plain := number_text_whole found
  unfold NumberText.value at made
  split at made
  · split at made
    · cases made
    · rename_i within
      have bound := of_digit_chars_lt number.whole plain 0
      rw [← digits_value_eq, Nat.zero_add, Nat.one_mul] at bound
      have positive : 0 < digitLimit := by decide
      have short : (naturalChars (digitsValue number.whole)).length ≤ digitLimit := by
        generalize digitLimit = limit at *
        apply natural_chars_length_le positive
        exact bound.trans_le (Nat.pow_le_pow_right (by decide) (Nat.not_lt.mp within))
      cases made
      refine .integer ?_
      cases number.negative <;> simpa using short
  · cases made
    exact .float (Binary64.of_decimal_kept _ _ _ _)

theorem scalar_document {text rest : List Char} {datum : Datum κ}
    (read : readScalar text = .ok (datum, rest)) : datum.IsDocument := by
  unfold readScalar at read
  split at read
  · rename_i word
    cases read
    rw [readWord, Option.map_eq_some_iff] at word
    obtain ⟨entry, found, same⟩ := word
    have listed := List.mem_of_find?_eq_some found
    have each : ∀ entry ∈ (words : List (List Char × Datum κ)), entry.2.IsDocument := by
      simp only [words, List.forall_mem_cons, List.not_mem_nil, false_implies, implies_true,
        and_true]
      exact ⟨.null, .bool true, .bool false, .float .nan, .float (.infinite false),
        .float (.infinite true)⟩
    rw [← (Prod.mk.inj same).1]
    exact each entry listed
  · split at read
    · rename_i number after found
      cases made : (number.value : Except Stop (Datum κ)) with
      | error stop =>
          rw [made] at read
          cases read
      | ok own =>
          rw [made] at read
          cases read
          exact number_document found made
    · cases read

/-! ## Lists and mappings -/

theorem collected_document {members : List (String × Datum κ)}
    (each : ∀ member ∈ members, member.2.IsDocument) : (collected members).IsDocument := by
  have folded (entries : List (String × Datum κ)) (distinct : (entries.map Prod.fst).Nodup)
      (own : ∀ entry ∈ entries, entry.2.IsDocument) :
      (Datum.mapping (members.foldl
        (fun entries member => insertEntry member.1 member.2 entries) entries)).IsDocument := by
    induction members generalizing entries with
    | nil => exact .mapping distinct own
    | cons member rest induction =>
        apply induction (fun other inside => each other (List.mem_cons_of_mem member inside))
        · exact nodup_insert_entry _ _ distinct
        · intro entry inside
          rcases mem_insert_entry inside with same | old
          · rw [same]
            exact each member List.mem_cons_self
          · exact own entry old
  exact folded [] List.nodup_nil (fun _ inside => absurd inside List.not_mem_nil)

/-- What the reader gives with an amount of fuel is made of documents. -/
structure ReadsDocuments (κ : Type) (fuel : Nat) : Prop where
  datum : ∀ (text : List Char) (datum : Datum κ) rest,
    readDatum fuel text = .ok (datum, rest) → datum.IsDocument
  items : ∀ (text : List Char) (items : List (Datum κ)) rest,
    readItems fuel text = .ok (items, rest) → ∀ item ∈ items, item.IsDocument
  members : ∀ (text : List Char) (members : List (String × Datum κ)) rest,
    readMembers fuel text = .ok (members, rest) → ∀ member ∈ members, member.2.IsDocument

namespace ReadsDocuments

variable {fuel : Nat} (inner : ReadsDocuments κ fuel)

include inner

theorem datum_step {text rest : List Char} {datum : Datum κ}
    (read : readDatum (fuel + 1) text = .ok (datum, rest)) : datum.IsDocument := by
  rw [readDatum.eq_def] at read
  dsimp only at read
  split at read
  · obtain ⟨pair, _, read⟩ := Run.except_bind_ok read
    cases read
    exact .text _
  · split at read
    · cases read
      exact .list fun _ inside => absurd inside List.not_mem_nil
    · obtain ⟨pair, own, read⟩ := Run.except_bind_ok read
      cases read
      exact .list (inner.items _ _ _ own)
  · split at read
    · cases read
      exact .mapping List.nodup_nil fun _ inside => absurd inside List.not_mem_nil
    · obtain ⟨pair, own, read⟩ := Run.except_bind_ok read
      cases read
      exact collected_document (inner.members _ _ _ own)
  · exact scalar_document read

theorem items_step {text rest : List Char} {items : List (Datum κ)}
    (read : readItems (fuel + 1) text = .ok (items, rest)) : ∀ item ∈ items, item.IsDocument := by
  rw [readItems] at read
  obtain ⟨⟨item, after⟩, first, read⟩ := Run.except_bind_ok read
  have own := inner.datum _ _ _ first
  dsimp only at read
  split at read
  · cases read
    rw [List.forall_mem_singleton]
    exact own
  · obtain ⟨⟨others, last⟩, later, read⟩ := Run.except_bind_ok read
    cases read
    exact List.forall_mem_cons.mpr ⟨own, inner.items _ _ _ later⟩
  · cases read

theorem members_step {text rest : List Char} {members : List (String × Datum κ)}
    (read : readMembers (fuel + 1) text = .ok (members, rest)) :
    ∀ member ∈ members, member.2.IsDocument := by
  rw [readMembers.eq_def] at read
  dsimp only at read
  split at read
  · obtain ⟨⟨chars, afterName⟩, _, read⟩ := Run.except_bind_ok read
    obtain ⟨start, _, read⟩ := Run.except_bind_ok read
    obtain ⟨⟨item, after⟩, first, read⟩ := Run.except_bind_ok read
    have own := inner.datum _ _ _ first
    dsimp only at read
    split at read
    · cases read
      rw [List.forall_mem_singleton]
      exact own
    · obtain ⟨⟨others, last⟩, later, read⟩ := Run.except_bind_ok read
      cases read
      exact List.forall_mem_cons.mpr ⟨own, inner.members _ _ _ later⟩
    · cases read
  · cases read

end ReadsDocuments

theorem reads_documents (fuel : Nat) : ReadsDocuments κ fuel := by
  induction fuel with
  | zero =>
      constructor
      · intro text datum rest read
        rw [readDatum] at read
        cases read
      · intro text items rest read
        rw [readItems] at read
        cases read
      · intro text members rest read
        rw [readMembers] at read
        cases read
  | succ fuel inner =>
      exact ⟨fun _ _ _ read => inner.datum_step read, fun _ _ _ read => inner.items_step read,
        fun _ _ _ read => inner.members_step read⟩

/-- Whatever is read from a text is a document. -/
theorem read_document {text : String} {datum : Datum κ} (made : read text = .ok datum) :
    datum.IsDocument := by
  rw [read] at made
  cases whole : (readWhole text.toList : Except Stop (Datum κ)) with
  | error stop =>
      rw [whole] at made
      cases made
  | ok own =>
      rw [whole] at made
      cases made
      unfold readWhole at whole
      split at whole
      · cases whole
      · obtain ⟨⟨inner, rest⟩, found, whole⟩ := Run.except_bind_ok whole
        dsimp only at whole
        split at whole
        · cases whole
          exact (reads_documents _).datum _ _ _ found
        · cases whole

end Json

end DocumentRules
