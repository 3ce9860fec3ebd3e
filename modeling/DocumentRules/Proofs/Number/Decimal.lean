import DocumentRules.Number.Integer

/-!
Whole numbers are read back from their decimal text, whatever their sign, as long as
they have no more digits than are converted. The text of a number holds digits and at
most a sign, so it is no other kind of name.
-/

set_option autoImplicit false

namespace DocumentRules.Number

open DocumentRules.Text

theorem digit_bounds {c : Char} (digit : c.isDigit = true) : 48 ≤ c.toNat ∧ c.toNat ≤ 57 :=
  Char.isDigit_iff_toNat.mp digit

theorem natural_chars_digits (value : Nat) : ∀ c ∈ naturalChars value, c.isDigit = true := by
  intro c member
  exact Nat.isDigit_of_mem_toDigits (by decide) (by decide) member

theorem digit_below_ten {c : Char} (digit : c.isDigit = true) :
    digitBelow? 10 c = some (c.toNat - 48) := by
  have bounds := digit_bounds digit
  have first : (decide (48 ≤ c.toNat) && decide (c.toNat ≤ 57)) = true := by simp [bounds]
  have small : c.toNat - 48 < 10 := by omega
  simp only [digitBelow?, hexDigitValue?, if_pos first, Option.filter_some, small, decide_true,
    if_true]

theorem read_digits_of_digits (digits : List Char) (decimal : ∀ c ∈ digits, c.isDigit = true)
    (count value : Nat) :
    readDigits 10 digits true count value =
      some (count + digits.length, Nat.ofDigitChars 10 digits value) := by
  induction digits generalizing count value with
  | nil => simp [readDigits]
  | cons c rest induction =>
      have later := induction (fun d member => decimal d (List.mem_cons_of_mem c member))
      rw [readDigits, digit_below_ten (decimal c List.mem_cons_self)]
      simp only
      rw [later, Nat.ofDigitChars_cons, List.length_cons, Nat.mul_comm 10 value,
        show count + 1 + rest.length = count + (rest.length + 1) by omega]
      rfl

/-- Digits that begin with one are read whatever came before them. -/
theorem read_digits_of_nonempty (digits : List Char) (decimal : ∀ c ∈ digits, c.isDigit = true)
    (nonempty : digits ≠ []) (afterDigit : Bool) :
    readDigits 10 digits afterDigit 0 0 =
      some (digits.length, Nat.ofDigitChars 10 digits 0) := by
  cases digits with
  | nil => exact absurd rfl nonempty
  | cons c rest =>
      have whole := read_digits_of_digits (c :: rest) decimal 0 0
      rw [Nat.zero_add] at whole
      rw [← whole, readDigits, readDigits, digit_below_ten (decimal c List.mem_cons_self)]

theorem read_magnitude_natural (value : Nat) (short : (naturalChars value).length ≤ digitLimit) :
    readMagnitude 10 (naturalChars value) = some value := by
  have whole := read_digits_of_nonempty (naturalChars value) (natural_chars_digits value)
    Nat.toDigits_ne_nil false
  have back : Nat.ofDigitChars 10 (naturalChars value) 0 = value := Nat.ofDigitChars_ten_toDigits
  rw [back] at whole
  have within : ¬digitLimit < (naturalChars value).length := by omega
  rw [readMagnitude, skipBaseMarker, whole]
  · simp [within]
  · intro marker rest impossible
    exact absurd impossible (by decide)

theorem map_plain_form (text : List Char) (plain : ∀ c ∈ text, c.toNat < 127) :
    text.mapM plainForm? = some text := by
  induction text with
  | nil => rfl
  | cons c rest induction =>
      have later := induction fun d member => plain d (List.mem_cons_of_mem c member)
      simp [later, plainForm?, plain c List.mem_cons_self]

theorem digit_facts {c : Char} (digit : c.isDigit = true) :
    c.toNat < 127 ∧ isPlainBlank c.toNat = false ∧ c ≠ '+' ∧ c ≠ '-' := by
  have bounds := digit_bounds digit
  refine ⟨by omega, ?_, ?_, ?_⟩
  · simp only [isPlainBlank, Bool.or_eq_false_iff, beq_eq_false_iff_ne, ne_eq,
      Bool.and_eq_false_iff, decide_eq_false_iff_not]
    omega
  · intro same
    rw [same] at bounds
    exact absurd bounds.1 (by decide)
  · intro same
    rw [same] at bounds
    exact absurd bounds.1 (by decide)

theorem read_natural_chars (value : Nat) (short : (naturalChars value).length ≤ digitLimit) :
    readInteger 10 (naturalChars value) = some (value : Int) := by
  have digits := natural_chars_digits value
  have whole := read_magnitude_natural value short
  rw [readInteger, map_plain_form _ fun c member => (digit_facts (digits c member)).1]
  simp only
  cases chars : naturalChars value with
  | nil => exact absurd chars Nat.toDigits_ne_nil
  | cons c rest =>
      rw [chars] at digits whole
      obtain ⟨_, notBlank, notPlus, notMinus⟩ := digit_facts (digits c List.mem_cons_self)
      rw [skipPlainBlanks, List.dropWhile_cons_of_neg (by simp [notBlank]), readSigned]
      · rw [whole]
        rfl
      · intro later same
        exact notPlus (List.cons.inj same).1
      · intro later same
        exact notMinus (List.cons.inj same).1

/-- A whole number is read back from its decimal text. -/
theorem read_integer_chars (value : Int)
    (short : (naturalChars value.natAbs).length ≤ digitLimit) :
    readInteger 10 (integerChars value) = some value := by
  cases value with
  | ofNat magnitude => exact read_natural_chars magnitude short
  | negSucc below =>
      have digits := natural_chars_digits (below + 1)
      have plain : ∀ c ∈ '-' :: naturalChars (below + 1), c.toNat < 127 := by
        intro c member
        rcases List.mem_cons.mp member with rfl | member
        · decide
        · exact (digit_facts (digits c member)).1
      rw [integerChars, readInteger, map_plain_form _ plain]
      simp only
      rw [skipPlainBlanks, List.dropWhile_cons_of_neg (by decide), readSigned,
        read_magnitude_natural (below + 1) short]
      rfl

theorem integer_chars_mem (value : Int) :
    ∀ c ∈ integerChars value, c.isDigit = true ∨ c = '-' := by
  intro c member
  cases value with
  | ofNat magnitude => exact Or.inl (natural_chars_digits magnitude c member)
  | negSucc below =>
      rcases List.mem_cons.mp member with rfl | member
      · exact Or.inr rfl
      · exact Or.inl (natural_chars_digits (below + 1) c member)

theorem integer_chars_nonempty (value : Int) : integerChars value ≠ [] := by
  cases value with
  | ofNat magnitude => exact Nat.toDigits_ne_nil
  | negSucc below => exact List.cons_ne_nil _ _

/-- A number below a power of ten has no more digits than the exponent says. -/
theorem natural_chars_length_le {value digits : Nat} (positive : 0 < digits)
    (bound : value < Nat.pow 10 digits) : (naturalChars value).length ≤ digits :=
  (Nat.length_toDigits_le_iff (by decide) positive).mpr bound

theorem one_le_power_of_ten (digits : Nat) : 1 ≤ Nat.pow 10 digits := Nat.pow_pos (by decide)

end DocumentRules.Number
