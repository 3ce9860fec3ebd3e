import DocumentRules.Proofs.Format.Numerals
import DocumentRules.Proofs.Predicate.Verdicts

/-!
Fields that hold a text or a number, and what they pass. Text predicates are given the subject
of a value, which is its display form unless the value is a zero: then it is nothing. So a
text equals itself, a text or a number other than zero is among options that hold it, and a
whole number other than zero has all three forms of a written number. A zero has none of them,
and neither has a number with too many digits to be written.
-/

set_option autoImplicit false

namespace DocumentRules

open Number Format

/-- A rule that asks for one validator and nothing else. -/
def Rule.asking (name : String) (given : Declaration) : Rule :=
  ⟨none, false, some [(name, given)], none, true⟩

/-- A field that holds the value passes a bundled validator, whatever the field is called. -/
def PassesValidator (name : String) (given : Declaration) (value : Value) : Prop :=
  ∀ field : String, ((Rule.asking name given).check bundledOnly field value).outcome = .ok none

/-- A check of one step passes when the step does. -/
theorem passes_validator_iff {name : String} {given : Declaration} {step : CheckStep}
    (made : CheckStep.ofRule bundledOnly (Rule.asking name given) = .ok [step]) (value : Value) :
    PassesValidator name given value ↔ step.Passes value := by
  have single : ∀ field : String,
      ((Rule.asking name given).check bundledOnly field value).outcome = .ok none ↔
        step.Passes value := by
    intro field
    rw [Rule.check_outcome made, CheckStep.run_all_passes_iff, List.forall_mem_singleton]
  constructor
  · intro passes
    exact (single "").mp (passes "")
  · intro passes field
    exact (single field).mpr passes

/-- A text, a whole number or a floating-point number. -/
inductive Literal where
  | text (written : String)
  | integer (value : Int)
  | float (value : Binary64)

namespace Literal

variable {κ : Type}

def datum : Literal → Datum κ
  | text written => .text written
  | integer value => .integer value
  | float value => .float value

def IsZero : Literal → Prop
  | text _ => False
  | integer value => value = 0
  | float value => value.isZero = true

theorem plain_datum (literal : Literal) : (literal.datum : Declaration).plain = literal.datum := by
  cases literal <;> rfl

theorem subject_datum (literal : Literal) :
    (literal.datum : Value).subject =
      if (literal.datum : Value).holds then (literal.datum : Value).display else "" := by
  cases literal <;> rfl

theorem subject_of_nonzero {literal : Literal} (nonzero : ¬literal.IsZero) :
    (literal.datum : Value).subject = (literal.datum : Value).display := by
  cases literal with
  | text written => exact Datum.subject_text written
  | integer value =>
      rw [subject_datum, if_pos]
      simpa [datum, Datum.holds, IsZero] using nonzero
  | float value =>
      rw [subject_datum, if_pos]
      simpa [datum, Datum.holds, IsZero] using nonzero

theorem subject_of_zero {literal : Literal} (zero : literal.IsZero) :
    (literal.datum : Value).subject = "" := by
  cases literal with
  | text written => exact False.elim zero
  | integer value =>
      rw [subject_datum, if_neg]
      simpa [datum, Datum.holds, IsZero] using zero
  | float value =>
      rw [subject_datum, if_neg]
      simpa [datum, Datum.holds, IsZero] using zero

theorem zero_chars_nonempty {value : Binary64} (zero : value.isZero = true) :
    literalNumbers.chars value ≠ [] := by
  cases value with
  | finite negative significand exponent =>
      have vanishes : significand = 0 := beq_iff_eq.mp zero
      rw [vanishes]
      cases negative <;> simp [NumberLayout.chars]
  | _ => cases zero

theorem literal_nonempty {datum : Datum κ} (chars : datum.literalChars ≠ []) :
    datum.literal ≠ "" := by
  intro empty
  apply chars
  rw [← String.toList_ofList (l := datum.literalChars)]
  exact congrArg String.toList empty

theorem short_of_zero {literal : Literal} (zero : literal.IsZero) :
    ¬(literal.datum : Value).HoldsLong := by
  rw [← Datum.writable_iff]
  cases literal with
  | text written => exact False.elim zero
  | integer value => exact zero ▸ by decide
  | float value => rfl

/-- A zero is displayed by its digits. -/
theorem display_of_zero {literal : Literal} (zero : literal.IsZero) :
    (literal.datum : Value).display ≠ "" := by
  cases literal with
  | text written => exact False.elim zero
  | integer value => exact literal_nonempty (integer_chars_nonempty value)
  | float value => exact literal_nonempty (zero_chars_nonempty zero)

end Literal

/-! ## Comparisons -/

section Comparisons

open Predicate

theorem equals_steps (given : String) :
    CheckStep.ofRule bundledOnly (Rule.asking "equals" (.text given)) =
      .ok [CheckStep.ofTest "equals" equalsTest .single [.text given] true] := rfl

theorem among_steps (options : List Declaration) :
    CheckStep.ofRule bundledOnly (Rule.asking "isIn" (.list options)) =
      .ok [CheckStep.ofTest "isIn" amongTest .several (options.map Datum.plain) true] := rfl

/-- A value is among the options when its subject is the display form of one of them, where the
value and all options can be written. -/
theorem passes_among_iff (options : List Declaration) (value : Value) :
    PassesValidator "isIn" (.list options) value ↔
      ¬value.HoldsLong ∧ (∀ option ∈ options, ¬option.plain.HoldsLong) ∧
        ∃ option ∈ options, value.subject = option.plain.display := by
  have all : (options.map Datum.plain).all Datum.isWritable = true ↔
      ∀ option ∈ options, ¬option.plain.HoldsLong := by
    simp [Datum.writable_iff]
  rw [passes_validator_iff (among_steps options), CheckStep.passes_textual, Datum.writable_iff,
    amongTest, ← all]
  refine and_congr_right fun _ => ?_
  by_cases writable : (options.map Datum.plain).all Datum.isWritable = true
  · rw [if_pos writable, Except.ok.injEq]
    simp only [writable, true_and, List.any_map, List.any_eq_true, Function.comp_def, equals_texts,
      decide_eq_true_eq]
  · rw [if_neg writable]
    exact iff_of_false (by simp) fun both => writable both.1

/-- A text equals itself. A text or a number is among all options that hold it and can be written,
unless it is a zero. -/
theorem literals_pass_comparison :
    (∀ written : String, PassesValidator "equals" (.text written) (.text written)) ∧
      ∀ literal : Literal,
        (∀ options : List Declaration, literal.datum ∈ options →
          (∀ option ∈ options, ¬option.plain.HoldsLong) →
            PassesValidator "isIn" (.list options) literal.datum) ↔ ¬literal.IsZero := by
  constructor
  · intro written
    rw [passes_validator_iff (equals_steps written), CheckStep.passes_textual,
      Datum.subject_text, equalsTest, equals_texts, decide_eq_true rfl]
    exact ⟨rfl, rfl⟩
  · intro literal
    constructor
    · intro passes zero
      have short : ∀ option ∈ [literal.datum], ¬(option : Declaration).plain.HoldsLong := by
        rw [List.forall_mem_singleton, literal.plain_datum]
        exact Literal.short_of_zero zero
      have alone := passes [literal.datum] List.mem_cons_self short
      rw [passes_among_iff] at alone
      simp only [List.mem_singleton, exists_eq_left, literal.plain_datum,
        Literal.subject_of_zero zero] at alone
      exact Literal.display_of_zero zero alone.2.2.symm
    · intro nonzero options listed short
      have own := short literal.datum listed
      rw [literal.plain_datum] at own
      rw [passes_among_iff]
      refine ⟨own, short, literal.datum, listed, ?_⟩
      rw [literal.plain_datum]
      exact Literal.subject_of_nonzero nonzero

theorem seven_among_options :
    let options : List Declaration := [.text "seven", .integer 7, .float .nan]
    .integer 7 ∈ options ∧ (∀ option ∈ options, ¬option.plain.HoldsLong) ∧
      ¬(Literal.integer 7).IsZero ∧ PassesValidator "isIn" (.list options) (.integer 7) := by
  intro options
  have listed : .integer 7 ∈ options := by simp [options]
  have short : ∀ option ∈ options, ¬option.plain.HoldsLong := by
    simp only [← Datum.writable_iff, options, List.forall_mem_cons, List.not_mem_nil,
      false_implies, implies_true, and_true]
    decide
  have nonzero : ¬(Literal.integer 7).IsZero := by
    intro zero
    cases zero
  exact ⟨listed, short, nonzero,
    (literals_pass_comparison.2 (.integer 7)).mpr nonzero options listed short⟩

/-- The number zero is not among options that hold nothing else, and seven does not equal itself. -/
theorem zero_not_among_itself :
    ¬PassesValidator "isIn" (.list [.integer 0]) (.integer 0) ∧
      ¬PassesValidator "equals" (.integer 7) (.integer 7) := by
  constructor
  · intro passes
    have ran := passes "count"
    cases ran
  · intro passes
    have ran := passes "count"
    cases ran

end Comparisons

/-! ## Number formats -/

section Formats

open Predicate

theorem format_steps :
    CheckStep.ofRule bundledOnly (Rule.asking "isInt" (.bool true)) =
        .ok [CheckStep.ofTest "isInt" (textTest .unsuitableKind isWholeNumber) .none [] true] ∧
      CheckStep.ofRule bundledOnly (Rule.asking "isNumeric" (.bool true)) =
        .ok [CheckStep.ofTest "isNumeric" (textTest .unsuitableKind isNumeral) .none [] true] ∧
      CheckStep.ofRule bundledOnly (Rule.asking "isFloat" (.bool true)) =
        .ok [CheckStep.ofTest "isFloat" (textTest .unsuitableKind isDecimal) .none [] true] :=
  ⟨rfl, rfl, rfl⟩

/-- A form that all decimal texts of whole numbers have and the empty text has not is the form of
the whole numbers other than zero that can be written. -/
theorem integer_passes_format {name : String} {test : List Char → Bool}
    (made : CheckStep.ofRule bundledOnly (Rule.asking name (.bool true)) =
      .ok [CheckStep.ofTest name (textTest .unsuitableKind test) .none [] true])
    (decimal : ∀ value : Int, test (integerChars value) = true) (empty : test [] = false)
    (value : Int) :
    PassesValidator name (.bool true) (.integer value) ↔
      value ≠ 0 ∧ (naturalChars value.natAbs).length ≤ digitLimit := by
  rw [passes_validator_iff made, CheckStep.passes_textual, textTest, Except.ok.injEq,
    Datum.integer_writable_iff, and_comm]
  refine and_congr_left fun _ => ?_
  by_cases zero : value = 0
  · rw [zero]
    change test [] = true ↔ _
    simp [empty]
  · have subject := @Literal.subject_of_nonzero (.integer value) zero
    change (Datum.integer value : Value).subject = integerText value at subject
    rw [subject, integerText, String.toList_ofList, decimal]
    simp [zero]

/-- A whole number has each of the three forms of a number exactly when it is not zero and can be
written. -/
theorem integers_pass_number_formats (value : Int) :
    let written := value ≠ 0 ∧ (naturalChars value.natAbs).length ≤ digitLimit
    (PassesValidator "isInt" (.bool true) (.integer value) ↔ written) ∧
      (PassesValidator "isNumeric" (.bool true) (.integer value) ↔ written) ∧
      (PassesValidator "isFloat" (.bool true) (.integer value) ↔ written) :=
  ⟨integer_passes_format format_steps.1 integer_is_whole_number rfl value,
    integer_passes_format format_steps.2.1 integer_is_numeral rfl value,
    integer_passes_format format_steps.2.2 integer_is_decimal rfl value⟩

/-- Zero has none of the forms. -/
theorem zero_lacks_number_formats :
    ¬PassesValidator "isInt" (.bool true) (.integer 0) ∧
      ¬PassesValidator "isNumeric" (.bool true) (.integer 0) ∧
      ¬PassesValidator "isFloat" (.bool true) (.integer 0) := by
  refine ⟨?_, ?_, ?_⟩ <;> intro passes <;> cases passes "count"

end Formats

end DocumentRules
