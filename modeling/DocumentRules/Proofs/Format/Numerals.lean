import DocumentRules.Format.Numeric
import DocumentRules.Proofs.Format.Lines
import DocumentRules.Proofs.Json.Numbers

/-!
The three written forms of a number. A whole number is a numeral without a point that does not
begin with a zero; a numeral is a decimal without an exponent that does not end in its point.
The decimal text of a whole number has no sign or a minus sign, then Latin digits without
leading zeros and nothing else, so that it has all three forms. The empty text has none.
-/

set_option autoImplicit false

namespace DocumentRules.Format

open Number Text

/-! ## Whole numbers among numerals among decimals -/

theorem exponent_mark_iff (c : Char) : isExponentMark c = true ↔ c = 'e' ∨ c = 'E' := by
  simp [isExponentMark]

/-- Some characters, or none where there are some before them. -/
def Suffices (anyDigit : Bool) (text : List Char) : Prop := anyDigit = true ∨ text ≠ []

/-- A numeral without a point is a row of digits. -/
theorem numeral_body_digits_iff (anyDigit : Bool) (text : List Char) :
    isNumeralBody anyDigit text = true ∧ '.' ∉ text ↔
      (∀ c ∈ text, isAnyDigit c = true) ∧ Suffices anyDigit text := by
  induction text generalizing anyDigit with
  | nil => simp [isNumeralBody, Suffices]
  | cons c rest induction =>
      by_cases digit : isAnyDigit c = true
      · have point : '.' ∉ c :: rest ↔ '.' ∉ rest := by
          simp [(ne_of_refused digit (by decide : isAnyDigit '.' = false)).symm]
        rw [isNumeralBody, if_pos digit, point, induction, List.forall_mem_cons]
        simp [digit, Suffices]
      · have other : isAnyDigit c = false := by simpa using digit
        rw [isNumeralBody, if_neg digit, List.forall_mem_cons]
        simp only [other, Bool.false_eq_true, false_and, iff_false, Bool.and_eq_true, beq_iff_eq]
        intro pointed
        exact pointed.2 (pointed.1.1 ▸ List.mem_cons_self)

/-- A fraction without an exponent is a row of digits. -/
theorem fraction_digits_iff (anyDigit : Bool) (text : List Char) :
    isFraction anyDigit text = true ∧ 'e' ∉ text ∧ 'E' ∉ text ↔
      (∀ c ∈ text, isAnyDigit c = true) ∧ Suffices anyDigit text := by
  induction text generalizing anyDigit with
  | nil => simp [isFraction, Suffices]
  | cons c rest induction =>
      by_cases digit : isAnyDigit c = true
      · have lower := (ne_of_refused digit (by decide : isAnyDigit 'e' = false)).symm
        have upper := (ne_of_refused digit (by decide : isAnyDigit 'E' = false)).symm
        have marks : 'e' ∉ c :: rest ∧ 'E' ∉ c :: rest ↔ 'e' ∉ rest ∧ 'E' ∉ rest := by
          simp [lower, upper]
        rw [isFraction, if_pos digit, marks, induction, List.forall_mem_cons]
        simp [digit, Suffices]
      · have other : isAnyDigit c = false := by simpa using digit
        rw [isFraction, if_neg digit, List.forall_mem_cons]
        simp only [other, Bool.false_eq_true, false_and, iff_false, Bool.and_eq_true]
        intro marked
        rcases (exponent_mark_iff c).mp marked.1.1.2 with lower | upper
        · exact marked.2.1 (lower ▸ List.mem_cons_self)
        · exact marked.2.2 (upper ▸ List.mem_cons_self)

/-- No exponent, and digits behind the point if there is one. -/
structure IsUnscaled (body : List Char) : Prop where
  lower : 'e' ∉ body
  upper : 'E' ∉ body
  finished : body.getLast? ≠ some '.'

theorem unscaled_cons_of_digit {c : Char} (digit : isAnyDigit c = true) (rest : List Char) :
    IsUnscaled (c :: rest) ↔ IsUnscaled rest := by
  have lower := (ne_of_refused digit (by decide : isAnyDigit 'e' = false)).symm
  have upper := (ne_of_refused digit (by decide : isAnyDigit 'E' = false)).symm
  have point := ne_of_refused digit (by decide : isAnyDigit '.' = false)
  have last : (c :: rest).getLast? = some '.' ↔ rest.getLast? = some '.' := by
    cases rest with
    | nil => simp [point]
    | cons next later => rw [List.getLast?_cons_cons]
  constructor
  · intro whole
    exact ⟨fun member => whole.lower (List.mem_cons_of_mem c member),
      fun member => whole.upper (List.mem_cons_of_mem c member),
      fun ended => whole.finished (last.mpr ended)⟩
  · intro part
    refine ⟨?_, ?_, fun ended => part.finished (last.mp ended)⟩
    · simp [lower, part.lower]
    · simp [upper, part.upper]

/-- Behind a point, to be unscaled is to be a row of digits. -/
theorem unscaled_fraction_iff (anyDigit : Bool) (text : List Char) :
    isFraction anyDigit text = true ∧ IsUnscaled ('.' :: text) ↔ isRun isAnyDigit text = true := by
  have row := fraction_digits_iff anyDigit text
  simp only [isRun, Bool.and_eq_true, Bool.not_eq_true', List.isEmpty_eq_false_iff,
    List.all_eq_true]
  constructor
  · intro both
    have digits := row.mp ⟨both.1, fun member => both.2.lower (List.mem_cons_of_mem '.' member),
      fun member => both.2.upper (List.mem_cons_of_mem '.' member)⟩
    refine ⟨?_, digits.1⟩
    intro nothing
    rw [nothing] at both
    exact both.2.finished rfl
  · intro digits
    have read := row.mpr ⟨digits.2, Or.inr digits.1⟩
    refine ⟨read.1, by simp [read.2.1], by simp [read.2.2], ?_⟩
    intro ended
    have inside : '.' ∈ text := by
      cases text with
      | nil => exact absurd rfl digits.1
      | cons next later =>
          rw [List.getLast?_cons_cons] at ended
          exact List.mem_of_getLast? ended
    exact ne_of_refused (digits.2 '.' inside) (by decide : isAnyDigit '.' = false) rfl

/-- A numeral is a decimal without an exponent that does not end in its point. -/
theorem numeral_body_iff (anyDigit : Bool) (text : List Char) :
    isNumeralBody anyDigit text = true ↔ isDecimalBody anyDigit text = true ∧ IsUnscaled text := by
  induction text generalizing anyDigit with
  | nil =>
      have nothing : IsUnscaled [] := ⟨by simp, by simp, by simp⟩
      simp [isNumeralBody, isDecimalBody, nothing]
  | cons c rest induction =>
      rw [isNumeralBody, isDecimalBody]
      by_cases digit : isAnyDigit c = true
      · rw [if_pos digit, if_pos digit, unscaled_cons_of_digit digit, induction]
      · rw [if_neg digit, if_neg digit]
        by_cases point : c = '.'
        · rw [point, if_pos (beq_self_eq_true '.'), unscaled_fraction_iff, beq_self_eq_true,
            Bool.true_and]
        · have other : (c == '.') = false := by simpa using point
          simp only [other, Bool.false_and, Bool.false_eq_true, if_false, false_iff,
            Bool.and_eq_true]
          intro scaled
          rcases (exponent_mark_iff c).mp scaled.1.1.2 with lower | upper
          · exact scaled.2.lower (lower ▸ List.mem_cons_self)
          · exact scaled.2.upper (upper ▸ List.mem_cons_self)

/-- No point, and no zero in front of other digits. The first of several digits is Latin. -/
structure IsUnbroken (body : List Char) : Prop where
  whole : '.' ∉ body
  lead : body = ['0'] ∨ ∃ first rest, body = first :: rest ∧ first.isDigit = true ∧ first ≠ '0'

/-- A whole number is a numeral without a point that does not begin with a zero. -/
theorem whole_body_iff (text : List Char) :
    isWholeBody text = true ↔ isNumeralBody false text = true ∧ IsUnbroken text := by
  have row := numeral_body_digits_iff false text
  constructor
  · intro whole
    rw [isWholeBody.eq_def] at whole
    split at whole
    · exact ⟨rfl, by decide, Or.inl rfl⟩
    · rename_i first rest _
      simp only [Bool.and_eq_true, List.all_eq_true, bne_iff_ne] at whole
      have latin := (latin_digit_iff first).mp whole.1.1
      have digits := row.mpr
        ⟨List.forall_mem_cons.mpr ⟨any_digit_of_latin whole.1.1, whole.2⟩, Or.inr (by simp)⟩
      exact ⟨digits.1, digits.2, Or.inr ⟨first, rest, rfl, latin, whole.1.2⟩⟩
    · cases whole
  · intro both
    have digits := row.mp ⟨both.1, both.2.whole⟩
    rcases both.2.lead with zero | ⟨first, rest, same, latin, nonzero⟩
    · rw [zero]
      rfl
    · rw [same] at digits ⊢
      have later := (List.forall_mem_cons.mp digits.1).2
      rw [isWholeBody]
      · simpa [nonzero, (latin_digit_iff first).mpr latin] using later
      · intro single
        exact absurd single nonzero

/-- A number without its sign and without a line feed at its end. -/
def bodyOf (text : List Char) : List Char := unsigned (lineOf text)

theorem whole_number_iff (text : List Char) :
    isWholeNumber text = true ↔ isNumeral text = true ∧ IsUnbroken (bodyOf text) :=
  whole_body_iff (bodyOf text)

theorem numeral_iff (text : List Char) :
    isNumeral text = true ↔ isDecimal text = true ∧ IsUnscaled (bodyOf text) :=
  numeral_body_iff false (bodyOf text)

/-! ## What numbers are made of -/

/-- A character that is no sign is in a number when it is in its body. -/
theorem mem_unsigned_iff {c : Char} (noPlus : c ≠ '+') (noMinus : c ≠ '-') (text : List Char) :
    c ∈ unsigned text ↔ c ∈ text := by
  rw [unsigned.eq_def]
  split
  · simp [noPlus]
  · simp [noMinus]
  · rfl

/-- An exponent with its mark, behind digits. -/
theorem exponent_not_feed {anyDigit : Bool} {c : Char} {rest : List Char}
    (accepted : (anyDigit && isExponentMark c && isExponent rest) = true) : '\n' ∉ c :: rest := by
  simp only [isExponent, isRun, Bool.and_eq_true, List.all_eq_true, exponent_mark_iff] at accepted
  have behind : '\n' ∉ rest := by
    rw [← mem_unsigned_iff (by decide) (by decide)]
    exact not_mem_of_refused accepted.2.2 (by decide)
  rcases accepted.1.2 with lower | upper
  · simp [lower, behind]
  · simp [upper, behind]

theorem fraction_not_feed {anyDigit : Bool} {text : List Char}
    (accepted : isFraction anyDigit text = true) : '\n' ∉ text := by
  induction text generalizing anyDigit with
  | nil => exact List.not_mem_nil
  | cons c rest induction =>
      rw [isFraction] at accepted
      by_cases digit : isAnyDigit c = true
      · rw [if_pos digit] at accepted
        have first := ne_of_refused digit (by decide : isAnyDigit '\n' = false)
        simp [first.symm, induction accepted]
      · rw [if_neg digit] at accepted
        exact exponent_not_feed accepted

theorem decimal_not_feed {anyDigit : Bool} {text : List Char}
    (accepted : isDecimalBody anyDigit text = true) : '\n' ∉ text := by
  induction text generalizing anyDigit with
  | nil => exact List.not_mem_nil
  | cons c rest induction =>
      rw [isDecimalBody] at accepted
      by_cases digit : isAnyDigit c = true
      · rw [if_pos digit] at accepted
        have first := ne_of_refused digit (by decide : isAnyDigit '\n' = false)
        simp [first.symm, induction accepted]
      · rw [if_neg digit] at accepted
        by_cases point : c = '.'
        · rw [if_pos (by simpa using point)] at accepted
          simp [point, fraction_not_feed accepted]
        · rw [if_neg (by simpa using point)] at accepted
          exact exponent_not_feed accepted

/-! ## Decimal texts of whole numbers -/

/-- Digits are a whole number when they are a single zero or do not begin with one. -/
theorem whole_body_of_digits {digits : List Char} (decimal : ∀ c ∈ digits, c.isDigit = true)
    (nonempty : digits ≠ []) (lead : digits = ['0'] ∨ digits.head? ≠ some '0') :
    isWholeBody digits = true := by
  cases digits with
  | nil => exact absurd rfl nonempty
  | cons first rest =>
      by_cases zero : first = '0'
      · have single : rest = [] := by simpa [zero] using lead
        rw [zero, single]
        rfl
      · have later : ∀ c ∈ rest, isAnyDigit c = true := by
          intro c member
          have digit := decimal c (List.mem_cons_of_mem first member)
          exact any_digit_of_latin ((latin_digit_iff c).mpr digit)
        rw [isWholeBody]
        · have latin := (latin_digit_iff first).mpr (decimal first List.mem_cons_self)
          simpa [zero, latin] using later
        · intro single
          exact absurd single zero

/-- The sign is taken off from the decimal text of a whole number. -/
theorem unsigned_integer_chars (value : Int) :
    unsigned (integerChars value) = naturalChars value.natAbs := by
  cases value with
  | negSucc below => rfl
  | ofNat magnitude =>
      have digits := natural_chars_digits magnitude
      change unsigned (naturalChars magnitude) = naturalChars magnitude
      cases chars : naturalChars magnitude with
      | nil => rfl
      | cons first rest =>
          rw [chars] at digits
          have facts := digit_facts (digits first List.mem_cons_self)
          rw [unsigned]
          · intro later same
            exact facts.2.2.1 (List.cons.inj same).1
          · intro later same
            exact facts.2.2.2 (List.cons.inj same).1

theorem line_of_integer_chars (value : Int) : lineOf (integerChars value) = integerChars value := by
  apply line_of_no_feed
  intro feed
  have impossible := integer_chars_mem value '\n' feed
  simp at impossible

theorem integer_is_whole_number (value : Int) : isWholeNumber (integerChars value) = true := by
  rw [isWholeNumber, line_of_integer_chars, unsigned_integer_chars]
  exact whole_body_of_digits (natural_chars_digits _) Nat.toDigits_ne_nil (Json.natural_lead _)

theorem integer_is_numeral (value : Int) : isNumeral (integerChars value) = true :=
  ((whole_number_iff _).mp (integer_is_whole_number value)).1

theorem integer_is_decimal (value : Int) : isDecimal (integerChars value) = true :=
  ((numeral_iff _).mp (integer_is_numeral value)).1

end DocumentRules.Format
