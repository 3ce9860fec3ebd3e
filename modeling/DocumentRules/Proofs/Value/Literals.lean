import DocumentRules.Proofs.Text.Ends
import DocumentRules.Proofs.Value.Subjects

/-!
What values look like when they are written. A number is written without blanks and a quoted text
without line feeds, so the literal of any value is a single line that does not end in a blank. Only
a text that stands alone can bring a line feed into what is displayed.
-/

set_option autoImplicit false

namespace DocumentRules

open Number Text

/-! ## Quoted texts -/

namespace Text

theorem hex_digits_not_feed (width value : Nat) : '\n' ∉ hexDigits width value := by
  have digits : ∀ digit < 16, '\n' ≠ hexDigit digit := by decide
  induction width generalizing value with
  | zero => exact List.not_mem_nil
  | succ width induction =>
      rw [hexDigits, List.mem_append, List.mem_singleton, not_or]
      exact ⟨induction _, digits _ (Nat.mod_lt _ (by decide))⟩

theorem quoted_char_not_feed {quote : Char} (plain : quote ≠ '\n') (c : Char) :
    '\n' ∉ quotedChar quote c := by
  by_cases feed : c = '\n'
  · have unquoted : ('\n' == quote) = false := beq_false_of_ne plain.symm
    simp [feed, quotedChar, unquoted]
  · have own : '\n' ≠ c := Ne.symm feed
    have spelled := fun width => hex_digits_not_feed width c.toNat
    unfold quotedChar
    split_ifs <;> simp [own, spelled]

theorem quote_for_cases (text : List Char) : quoteFor text = '"' ∨ quoteFor text = '\'' := by
  rw [quoteFor]
  split
  · exact Or.inl rfl
  · exact Or.inr rfl

theorem quoted_chars_not_feed (text : List Char) : '\n' ∉ quotedChars text := by
  have plain : quoteFor text ≠ '\n' := by
    rcases quote_for_cases text with same | same <;> rw [same] <;> decide
  rw [quotedChars, List.cons_append, List.mem_cons, List.mem_append, List.mem_singleton,
    List.mem_flatMap]
  intro feed
  rcases feed with front | ⟨c, _, inside⟩ | back
  · exact plain front.symm
  · exact quoted_char_not_feed plain c inside
  · exact plain back.symm

theorem quoted_chars_end (text : List Char) : EndsFirmly (quotedChars text) := by
  have solid : isBlank (quoteFor text).toNat = false := by
    rcases quote_for_cases text with same | same <;> rw [same] <;> decide
  exact EndsFirmly.of_last solid _

end Text

/-! ## Numbers -/

namespace Number

theorem digit_not_blank {c : Char} (digit : c.isDigit = true) : isBlank c.toNat = false := by
  have bounds := digit_bounds digit
  simp only [isBlank, blankIntervals, within, Interval.holds, List.any_cons, List.any_nil,
    Bool.or_eq_false_iff, Bool.and_eq_false_iff, decide_eq_false_iff_not, and_true]
  omega

theorem natural_chars_solid (value : Nat) : IsSolid (naturalChars value) :=
  fun c member => digit_not_blank (natural_chars_digits value c member)

theorem integer_chars_solid (value : Int) : IsSolid (integerChars value) := by
  intro c member
  rcases integer_chars_mem value c member with digit | minus
  · exact digit_not_blank digit
  · rw [minus]
    decide

theorem zeros_solid (count : Nat) : IsSolid (NumberLayout.zeros count) := by
  intro c member
  rw [List.eq_of_mem_replicate member]
  decide

theorem positional_solid {digits : List Char} (decimal : ∀ c ∈ digits, c.isDigit = true)
    (pointAfter : Int) : IsSolid (NumberLayout.positional digits pointAfter) := by
  intro c member
  rcases Datum.positional_chars digits pointAfter decimal c member with digit | point
  · exact digit_not_blank digit
  · rw [point]
    decide

theorem scientific_solid (layout : NumberLayout) {digits : List Char} (solid : IsSolid digits)
    (power : Int) : IsSolid (layout.scientific digits power) := by
  unfold NumberLayout.scientific
  dsimp only
  rw [solid_append_iff, solid_cons_iff, solid_cons_iff, solid_append_iff]
  refine ⟨?_, by decide, ?_, zeros_solid _, natural_chars_solid _⟩
  · split
    · rw [solid_cons_iff] at solid
      rw [solid_cons_iff, solid_cons_iff]
      exact ⟨solid.1, by decide, solid.2⟩
    · exact solid
  · split <;> decide

theorem decimal_chars_solid (layout : NumberLayout) (decimal : Decimal) :
    IsSolid (layout.decimalChars decimal) := by
  unfold NumberLayout.decimalChars
  dsimp only
  split
  · exact positional_solid (natural_chars_digits decimal.digits) _
  · exact scientific_solid layout (natural_chars_solid decimal.digits) _

theorem decimal_chars_nonempty (layout : NumberLayout) (decimal : Decimal) :
    layout.decimalChars decimal ≠ [] := by
  unfold NumberLayout.decimalChars NumberLayout.positional NumberLayout.scientific
  dsimp only
  split_ifs <;> simp

theorem float_chars_solid (value : Binary64) : IsSolid (literalNumbers.chars value) := by
  cases value with
  | nan => exact (solid_iff_all _).mpr rfl
  | infinite negative => cases negative <;> exact (solid_iff_all _).mpr rfl
  | finite negative significand exponent =>
      have magnitude : IsSolid
          (if significand == 0 then ['0', '.', '0']
            else literalNumbers.decimalChars (Decimal.shortest significand exponent)) := by
        split
        · exact (solid_iff_all _).mpr rfl
        · exact decimal_chars_solid literalNumbers _
      cases negative with
      | true => exact (solid_cons_iff _ _).mpr ⟨rfl, magnitude⟩
      | false => exact magnitude

theorem float_chars_nonempty (value : Binary64) : literalNumbers.chars value ≠ [] := by
  cases value with
  | nan => exact List.cons_ne_nil _ _
  | infinite negative => cases negative <;> exact List.cons_ne_nil _ _
  | finite negative significand exponent =>
      unfold NumberLayout.chars
      dsimp only
      split_ifs <;> simp [decimal_chars_nonempty]

end Number

/-! ## Literals -/

namespace Datum

variable {κ : Type}

theorem not_feed_of_solid {text : List Char} (solid : IsSolid text) : '\n' ∉ text := by
  intro feed
  exact absurd (solid '\n' feed) (by decide)

/-- Parts without line feeds stay without them between brackets. -/
theorem enclosed_not_feed {opening closing : Char} {parts : List (List Char)}
    (opens : '\n' ≠ opening) (closes : '\n' ≠ closing) (each : ∀ part ∈ parts, '\n' ∉ part) :
    '\n' ∉ opening :: joined commaSpace parts ++ [closing] := by
  rw [List.cons_append, List.mem_cons, List.mem_append, List.mem_singleton]
  intro feed
  rcases feed with front | inner | back
  · exact opens front
  · rcases mem_joined inner with between | ⟨part, member, inside⟩
    · exact absurd between (by decide)
    · exact each part member inside
  · exact closes back

mutual

theorem literal_not_feed : ∀ datum : Datum κ, '\n' ∉ datum.literalChars
  | .null => not_feed_of_solid ((solid_iff_all _).mpr rfl)
  | .bool true => not_feed_of_solid ((solid_iff_all _).mpr rfl)
  | .bool false => not_feed_of_solid ((solid_iff_all _).mpr rfl)
  | .integer value => not_feed_of_solid (integer_chars_solid value)
  | .float value => not_feed_of_solid (float_chars_solid value)
  | .text value => quoted_chars_not_feed value.toList
  | .list items =>
      enclosed_not_feed (by decide) (by decide) (literal_items_not_feed items)
  | .mapping entries =>
      enclosed_not_feed (by decide) (by decide) (literal_entries_not_feed entries)
  | .callable _ => not_feed_of_solid ((solid_iff_all _).mpr rfl)

theorem literal_items_not_feed :
    ∀ items : List (Datum κ), ∀ part ∈ literalItems items, '\n' ∉ part
  | [] => by
      rw [literalItems]
      exact fun part none => absurd none List.not_mem_nil
  | item :: rest => by
      rw [literalItems, List.forall_mem_cons]
      exact ⟨literal_not_feed item, literal_items_not_feed rest⟩

theorem literal_entries_not_feed :
    ∀ entries : List (String × Datum κ), ∀ part ∈ literalEntries entries, '\n' ∉ part
  | [] => by
      rw [literalEntries]
      exact fun part none => absurd none List.not_mem_nil
  | (key, item) :: rest => by
      have own := quoted_chars_not_feed key.toList
      have inner := literal_not_feed item
      rw [literalEntries, List.forall_mem_cons]
      refine ⟨?_, literal_entries_not_feed rest⟩
      simp [own, inner]

end

theorem literal_ends (datum : Datum κ) : EndsFirmly datum.literalChars := by
  cases datum with
  | null => exact EndsFirmly.of_last rfl ['N', 'o', 'n']
  | bool truth =>
      cases truth with
      | true => exact EndsFirmly.of_last rfl ['T', 'r', 'u']
      | false => exact EndsFirmly.of_last rfl ['F', 'a', 'l', 's']
  | integer value =>
      exact EndsFirmly.of_solid (integer_chars_nonempty value) (integer_chars_solid value)
  | float value => exact EndsFirmly.of_solid (float_chars_nonempty value) (float_chars_solid value)
  | text value => exact quoted_chars_end value.toList
  | list items => exact EndsFirmly.of_last rfl ('[' :: joined commaSpace (literalItems items))
  | mapping entries =>
      exact EndsFirmly.of_last rfl ('\x7b' :: joined commaSpace (literalEntries entries))
  | callable behind => exact EndsFirmly.of_last rfl "<function".toList

theorem display_of_no_text {datum : Datum κ} (noText : ∀ written, datum ≠ .text written) :
    datum.display.toList = datum.literalChars := by
  have chars : datum.literal.toList = datum.literalChars := String.toList_ofList
  cases datum with
  | text written => exact absurd rfl (noText written)
  | _ => exact chars

end Datum

end DocumentRules
