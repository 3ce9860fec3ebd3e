import DocumentRules.Format.Calendar
import DocumentRules.Proofs.Number.Decimal
import DocumentRules.Value.Display
import Mathlib.Tactic.ByContra

/-!
What text predicates are given when the value is no text. Such a subject is nothing at
all, begins with one of a few marks, or is that of a number; it can be told from a date
and from most words. So a value whose subject is a date is that date, written as a text.
-/

set_option autoImplicit false

namespace DocumentRules

open Number Format

namespace Datum

/-- What a literal that is neither a text nor a number begins with, and what a number without
leading digits does. -/
def leadingMarks : List Char := ['t', 'N', 'T', 'F', '[', '\x7b', '<', '-', 'n', 'i']

/-- How the subject of a datum that is no text can look. -/
inductive Rendered : List Char → Prop where
  | nothing : Rendered []
  | marked (first : Char) (rest : List Char) (mark : first ∈ leadingMarks) :
      Rendered (first :: rest)
  | positional (chars : List Char) (plain : ∀ c ∈ chars, c.isDigit = true ∨ c = '.') :
      Rendered chars
  | scientific (first mark : Char) (rest : List Char) (digit : first.isDigit = true)
      (sign : mark = '.' ∨ mark = 'e') : Rendered (first :: mark :: rest)

theorem rendered_integer (value : Int) : Rendered (integerChars value) := by
  cases value with
  | ofNat magnitude =>
      apply Rendered.positional
      intro c member
      exact Or.inl (natural_chars_digits magnitude c member)
  | negSucc below => exact Rendered.marked '-' _ (by decide)

theorem positional_chars (digits : List Char) (pointAfter : Int)
    (decimal : ∀ c ∈ digits, c.isDigit = true) :
    ∀ c ∈ NumberLayout.positional digits pointAfter, c.isDigit = true ∨ c = '.' := by
  have zero : ('0').isDigit = true := by decide
  intro c member
  rw [NumberLayout.positional] at member
  split at member
  · simp only [NumberLayout.zeros, List.mem_cons, List.mem_append, List.mem_replicate,
      List.cons_append] at member
    rcases member with rfl | rfl | ⟨_, rfl⟩ | inside
    · exact Or.inl zero
    · exact Or.inr rfl
    · exact Or.inl zero
    · exact Or.inl (decimal c inside)
  · split at member
    · simp only [NumberLayout.zeros, List.mem_append, List.mem_replicate, List.mem_cons,
        List.not_mem_nil, or_false] at member
      rcases member with (inside | ⟨_, rfl⟩) | rfl | rfl
      · exact Or.inl (decimal c inside)
      · exact Or.inl zero
      · exact Or.inr rfl
      · exact Or.inl zero
    · rcases List.mem_append.mp member with inside | later
      · exact Or.inl (decimal c (List.mem_of_mem_take inside))
      · rcases List.mem_cons.mp later with rfl | inside
        · exact Or.inr rfl
        · exact Or.inl (decimal c (List.mem_of_mem_drop inside))

theorem rendered_scientific (layout : NumberLayout) (digits : List Char) (power : Int)
    (decimal : ∀ c ∈ digits, c.isDigit = true) (nonempty : digits ≠ []) :
    Rendered (layout.scientific digits power) := by
  cases digits with
  | nil => exact absurd rfl nonempty
  | cons first rest =>
      have digit := decimal first List.mem_cons_self
      cases rest with
      | nil => exact Rendered.scientific first 'e' _ digit (Or.inr rfl)
      | cons second later => exact Rendered.scientific first '.' _ digit (Or.inl rfl)

theorem rendered_decimal (layout : NumberLayout) (decimal : Decimal) :
    Rendered (layout.decimalChars decimal) := by
  have digits := natural_chars_digits decimal.digits
  simp only [NumberLayout.decimalChars]
  split
  · exact Rendered.positional _ (positional_chars _ _ digits)
  · exact rendered_scientific layout _ _ digits Nat.toDigits_ne_nil

theorem rendered_float (value : Binary64) : Rendered (literalNumbers.chars value) := by
  cases value with
  | nan => exact Rendered.marked 'n' _ (by decide)
  | infinite negative =>
      cases negative with
      | true => exact Rendered.marked '-' _ (by decide)
      | false => exact Rendered.marked 'i' _ (by decide)
  | finite negative significand exponent =>
      cases negative with
      | true => exact Rendered.marked '-' _ (by decide)
      | false =>
          simp only [NumberLayout.chars, Bool.false_eq_true, if_false]
          split
          · apply Rendered.positional
            rw [List.forall_mem_cons, List.forall_mem_cons, List.forall_mem_singleton]
            decide
          · exact rendered_decimal literalNumbers _

variable {κ : Type}

theorem rendered_literal (datum : Datum κ) (noText : ∀ written, datum ≠ .text written) :
    Rendered datum.literalChars := by
  cases datum with
  | null => exact Rendered.marked 'N' _ (by decide)
  | bool truth =>
      cases truth with
      | true => exact Rendered.marked 'T' _ (by decide)
      | false => exact Rendered.marked 'F' _ (by decide)
  | integer value => exact rendered_integer value
  | float value => exact rendered_float value
  | text written => exact absurd rfl (noText written)
  | list items => exact Rendered.marked '[' _ (by decide)
  | mapping entries => exact Rendered.marked '\x7b' _ (by decide)
  | callable behind => exact Rendered.marked '<' _ (by decide)

/-- A text is its own subject. -/
theorem subject_text (written : String) : (Datum.text written : Datum κ).subject = written := by
  by_cases empty : written = ""
  · simp [subject, holds, empty]
  · simp [subject, holds, empty, display]

theorem rendered_subject (datum : Datum κ) (noText : ∀ written, datum ≠ .text written) :
    Rendered datum.subject.toList := by
  have literal : Rendered datum.literal.toList := by
    rw [literal, String.toList_ofList]
    exact rendered_literal datum noText
  have display : datum.display = datum.literal := by
    cases datum with
    | text written => exact absurd rfl (noText written)
    | _ => rfl
  unfold subject
  split
  · exact Rendered.marked 't' _ (by decide)
  · by_cases holds : datum.holds = true
    · rw [if_pos holds, display]
      exact literal
    · rw [if_neg holds]
      exact Rendered.nothing

/-! ## Telling such subjects from dates and words -/

theorem read_number_some {count value : Nat} {text : List Char} {read : Nat × List Char}
    (ran : readNumber (count + 1) value text = some read) :
    ∃ c rest digit, text = c :: rest ∧ c.isDigit = true ∧
      readNumber count (value * 10 + digit) rest = some read := by
  cases text with
  | nil => cases ran
  | cons c rest =>
      rw [readNumber] at ran
      cases digit : latinDigit? c with
      | none => simp [digit] at ran
      | some found =>
          rw [digit] at ran
          refine ⟨c, rest, found, rfl, ?_, ran⟩
          by_cases plain : isLatinDigit c = true
          · simpa [isLatinDigit, Text.isPlainDigit, Char.isDigit_iff_toNat] using plain
          · simp [latinDigit?, plain] at digit

/-- A date begins with four digits and a dash. -/
theorem after_date_some {text rest : List Char} (found : afterDate? text = some rest) :
    ∃ a b c d later, text = a :: b :: c :: d :: '-' :: later ∧
      a.isDigit = true ∧ b.isDigit = true := by
  simp only [afterDate?, Option.bind_eq_bind, Option.bind_eq_some_iff] at found
  obtain ⟨⟨year, afterYear⟩, readYear, behindMark, marked, _⟩ := found
  obtain ⟨a, textA, _, rfl, digitA, readYear⟩ := read_number_some readYear
  obtain ⟨b, textB, _, rfl, digitB, readYear⟩ := read_number_some readYear
  obtain ⟨c, textC, _, rfl, _, readYear⟩ := read_number_some readYear
  obtain ⟨d, textD, _, rfl, _, readYear⟩ := read_number_some readYear
  simp only [readNumber, Option.some.injEq, Prod.mk.injEq] at readYear
  obtain ⟨_, rfl⟩ := readYear
  cases textD with
  | nil => cases marked
  | cons mark later =>
      by_cases dash : mark = '-'
      · exact ⟨a, b, c, d, later, by rw [dash], digitA, digitB⟩
      · simp [readMark, dash] at marked

theorem not_date_of_rendered {text : List Char} (rendered : Rendered text) :
    isDateOrMoment text = false := by
  have none : afterDate? text = none := by
    apply Option.eq_none_iff_forall_ne_some.mpr
    intro rest found
    obtain ⟨a, b, c, d, later, rfl, digitA, digitB⟩ := after_date_some found
    cases rendered with
    | marked _ _ mark =>
        have marks : ∀ c ∈ leadingMarks, c.isDigit = false := by
          simp only [leadingMarks, List.forall_mem_cons, List.not_mem_nil, false_implies,
            implies_true, and_true]
          decide
        rw [marks a mark] at digitA
        cases digitA
    | positional _ plain =>
        have dash := plain '-' (by simp)
        simp at dash
    | scientific _ _ _ _ sign =>
        rcases sign with rfl | rfl <;> simp at digitB
  simp [isDateOrMoment, isMoment, none]

/-- Only a text can be a date. -/
theorem text_of_date_subject {datum : Datum κ}
    (date : isDateOrMoment datum.subject.toList = true) :
    ∃ written, datum = .text written := by
  by_contra noText
  have rendered := rendered_subject datum fun written same => noText ⟨written, same⟩
  rw [not_date_of_rendered rendered] at date
  cases date

/-- Only a text can be a word that begins with neither a mark nor a digit. -/
theorem text_of_word_subject {datum : Datum κ} {first : Char} {rest : List Char}
    (word : datum.subject.toList = first :: rest)
    (unmarked : first ∉ leadingMarks)
    (noDigit : first.isDigit = false) (noPoint : first ≠ '.') :
    ∃ written, datum = .text written := by
  by_contra noText
  have rendered := rendered_subject datum fun written same => noText ⟨written, same⟩
  rw [word] at rendered
  cases rendered with
  | marked _ _ mark => exact unmarked mark
  | positional _ plain =>
      rcases plain first List.mem_cons_self with digit | point
      · rw [noDigit] at digit
        cases digit
      · exact noPoint point
  | scientific _ _ _ digit _ =>
      rw [noDigit] at digit
      cases digit

end Datum

end DocumentRules
