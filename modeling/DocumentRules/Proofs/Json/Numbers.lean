import DocumentRules.Json.Printer
import DocumentRules.Proofs.Json.Documents
import DocumentRules.Proofs.Number.Shortest
import DocumentRules.Proofs.Text.Spans

/-!
Numbers are read back from what is written for them. A written number is taken apart into its
sign, its whole part, its fraction and its exponent, whatever follows it, as long as no number
could go on there. In every layout of a floating-point number these parts give its shortest
digits, with some zeros behind them.
-/

set_option autoImplicit false

namespace DocumentRules.Json

open Number Text

variable {κ : Type}

/-! ## The parts of a number -/

/-- No run of digits goes on here. -/
def NoDigit (rest : List Char) : Prop := ∀ c ∈ rest.head?, isJsonDigit c = false

/-- No number goes on here. -/
structure Stops (rest : List Char) : Prop where
  noDigit : NoDigit rest
  noPoint : '.' ∉ rest.head?
  noMark : 'e' ∉ rest.head? ∧ 'E' ∉ rest.head?

theorem stops_cons {c : Char} (rest : List Char)
    (odd : isJsonDigit c = false ∧ c ≠ '.' ∧ c ≠ 'e' ∧ c ≠ 'E') : Stops (c :: rest) := by
  obtain ⟨noDigit, noPoint, noSmall, noLarge⟩ := odd
  refine ⟨?_, ?_, ?_, ?_⟩
  · rintro own ⟨⟩
    exact noDigit
  · exact fun same => noPoint (Option.some.inj same)
  · exact fun same => noSmall (Option.some.inj same)
  · exact fun same => noLarge (Option.some.inj same)

theorem stops_nil : Stops [] where
  noDigit := fun _ none => absurd none (Option.not_mem_none _)
  noPoint := Option.not_mem_none _
  noMark := ⟨Option.not_mem_none _, Option.not_mem_none _⟩

def IsDigits (digits : List Char) : Prop := digits ≠ [] ∧ ∀ c ∈ digits, isJsonDigit c = true

theorem zero_is_digits : IsDigits ['0'] :=
  ⟨List.cons_ne_nil _ _, List.forall_mem_singleton.mpr rfl⟩

theorem IsDigits.append_zeros {digits : List Char} (plain : IsDigits digits) (count : Nat) :
    IsDigits (digits ++ NumberLayout.zeros count) := by
  refine ⟨List.append_ne_nil_of_left_ne_nil plain.1 _, ?_⟩
  intro c member
  rcases List.mem_append.mp member with own | zero
  · exact plain.2 c own
  · rw [List.eq_of_mem_replicate zero]
    decide

theorem IsDigits.zeros_append {digits : List Char} (plain : IsDigits digits) (count : Nat) :
    IsDigits (NumberLayout.zeros count ++ digits) := by
  refine ⟨List.append_ne_nil_of_right_ne_nil _ plain.1, ?_⟩
  intro c member
  rcases List.mem_append.mp member with zero | own
  · rw [List.eq_of_mem_replicate zero]
    decide
  · exact plain.2 c own

theorem natural_is_digits (value : Nat) : IsDigits (naturalChars value) := by
  refine ⟨Nat.toDigits_ne_nil, ?_⟩
  intro c member
  have bounds := digit_bounds (natural_chars_digits value c member)
  simp [isJsonDigit, isPlainDigit, bounds.1, bounds.2]

theorem take_digits_append {digits rest : List Char} (plain : ∀ c ∈ digits, isJsonDigit c = true)
    (stops : NoDigit rest) : takeDigits (digits ++ rest) = (digits, rest) := by
  rw [takeDigits, List.span_eq_takeWhile_dropWhile, take_span plain stops, drop_span plain stops]

namespace NumberText

def fractionChars : Option (List Char) → List Char
  | none => []
  | some digits => '.' :: digits

def exponentChars : Option (Bool × List Char) → List Char
  | none => []
  | some (negative, digits) => 'e' :: (if negative then '-' else '+') :: digits

/-- How a number with these parts is written. -/
def chars (number : NumberText) : List Char :=
  (if number.negative then ['-'] else []) ++
    (number.whole ++ (fractionChars number.fraction ++ exponentChars number.exponent))

structure IsWritten (number : NumberText) : Prop where
  whole : IsDigits number.whole
  lead : number.whole = ['0'] ∨ number.whole.head? ≠ some '0'
  fraction : ∀ digits ∈ number.fraction, IsDigits digits
  exponent : ∀ part ∈ number.exponent, IsDigits part.2

end NumberText

open NumberText

theorem exponent_part_chars {exponent : Option (Bool × List Char)} {rest : List Char}
    (written : ∀ part ∈ exponent, IsDigits part.2) (stops : Stops rest) :
    exponentPart (exponentChars exponent ++ rest) = (exponent, rest) := by
  rcases exponent with _ | ⟨negative, digits⟩
  · change exponentPart rest = (none, rest)
    cases rest with
    | nil => rfl
    | cons c later =>
        have other : ¬(c == 'e' || c == 'E') = true := by
          rw [Bool.or_eq_true, beq_iff_eq, beq_iff_eq, not_or]
          exact ⟨fun same => stops.noMark.1 (same ▸ rfl), fun same => stops.noMark.2 (same ▸ rfl)⟩
        rw [exponentPart, if_neg other]
  · have plain := written _ rfl
    have sign : exponentSign ((if negative then '-' else '+') :: (digits ++ rest)) =
        (negative, digits ++ rest) := by
      cases negative <;> rfl
    rw [exponentChars, List.cons_append, List.cons_append, exponentPart, if_pos (by decide), sign]
    dsimp only
    rw [take_digits_append plain.2 stops.noDigit]
    cases digits with
    | nil => exact absurd rfl plain.1
    | cons c later => rfl

theorem exponent_head (exponent : Option (Bool × List Char)) {rest : List Char}
    (stops : Stops rest) :
    NoDigit (exponentChars exponent ++ rest) ∧ '.' ∉ (exponentChars exponent ++ rest).head? := by
  rcases exponent with _ | ⟨negative, digits⟩
  · exact ⟨stops.noDigit, stops.noPoint⟩
  · constructor
    · intro c head
      cases head
      decide
    · intro head
      exact absurd (Option.some.inj head) (by decide)

theorem fraction_part_chars {fraction : Option (List Char)} {rest : List Char}
    (written : ∀ digits ∈ fraction, IsDigits digits) (noDigit : NoDigit rest)
    (noPoint : '.' ∉ rest.head?) :
    fractionPart (fractionChars fraction ++ rest) = (fraction, rest) := by
  cases fraction with
  | none =>
      change fractionPart rest = (none, rest)
      unfold fractionPart
      split
      · exact absurd rfl noPoint
      · rfl
  | some digits =>
      have plain := written digits rfl
      rw [fractionChars, List.cons_append, fractionPart, take_digits_append plain.2 noDigit]
      cases digits with
      | nil => exact absurd rfl plain.1
      | cons c later => rfl

theorem fraction_head (fraction : Option (List Char)) {rest : List Char}
    (noDigit : NoDigit rest) : NoDigit (fractionChars fraction ++ rest) := by
  cases fraction with
  | none => exact noDigit
  | some digits =>
      intro c head
      cases head
      decide

theorem whole_part_chars {whole rest : List Char} (plain : IsDigits whole)
    (lead : whole = ['0'] ∨ whole.head? ≠ some '0') (noDigit : NoDigit rest) :
    wholePart? (whole ++ rest) = some (whole, rest) := by
  rcases lead with rfl | lead
  · rfl
  · cases whole with
    | nil => exact absurd rfl plain.1
    | cons c later =>
        have other : c ≠ '0' := fun same => lead (congrArg some same)
        rw [List.cons_append, wholePart?]
        · rw [← List.cons_append, take_digits_append plain.2 noDigit]
        · intro rest' same
          exact other (List.cons.inj same).1

/-- A written number is taken apart again. -/
theorem number_text_chars {number : NumberText} {rest : List Char} (written : number.IsWritten)
    (stops : Stops rest) : numberText? (number.chars ++ rest) = some (number, rest) := by
  obtain ⟨negative, whole, fraction, exponent⟩ := number
  obtain ⟨exponentDigit, exponentPoint⟩ := exponent_head exponent stops
  have wholeRead := whole_part_chars written.whole written.lead
    (fraction_head fraction exponentDigit)
  have fractionRead := fraction_part_chars written.fraction exponentDigit exponentPoint
  have exponentRead := exponent_part_chars written.exponent stops
  have unsigned (later : List Char) : (whole ++ later).head? ≠ some '-' := by
    have plain := written.whole
    cases whole with
    | nil => exact absurd rfl plain.1
    | cons c others =>
        intro minus
        rw [Option.some.inj minus] at plain
        exact absurd (plain.2 _ List.mem_cons_self) (by decide)
  dsimp only at wholeRead fractionRead exponentRead
  cases negative with
  | false =>
      have chars : NumberText.chars ⟨false, whole, fraction, exponent⟩ ++ rest =
          whole ++ (fractionChars fraction ++ (exponentChars exponent ++ rest)) := by
        simp [NumberText.chars, List.append_assoc]
      rw [chars, numberText?]
      · simp only [wholeRead, fractionRead, exponentRead, Option.bind_eq_bind, Option.bind_some,
          Option.pure_def]
      · intro later minus
        exact unsigned _ (congrArg List.head? minus)
  | true =>
      have chars : NumberText.chars ⟨true, whole, fraction, exponent⟩ ++ rest =
          '-' :: (whole ++ (fractionChars fraction ++ (exponentChars exponent ++ rest))) := by
        simp [NumberText.chars, List.append_assoc]
      rw [chars, numberText?]
      simp only [wholeRead, fractionRead, exponentRead, Option.bind_eq_bind, Option.bind_some,
        Option.pure_def]

/-! ## The value of a number -/

/-- Words begin with letters. -/
theorem read_word_digits {number : NumberText} (written : number.IsWritten) (rest : List Char) :
    (readWord (number.chars ++ rest) : Option (Datum κ × List Char)) = none := by
  obtain ⟨negative, whole, fraction, exponent⟩ := number
  obtain ⟨filled, plain⟩ := written.whole
  dsimp only at filled plain
  cases whole with
  | nil => exact absurd rfl filled
  | cons c digits =>
      have digit := plain c List.mem_cons_self
      have letter (other : Char) (no : isJsonDigit other = false) : other ≠ c := by
        rintro rfl
        rw [digit] at no
        cases no
      rw [readWord, Option.map_eq_none_iff, List.find?_eq_none]
      simp only [words, List.forall_mem_cons, List.not_mem_nil, false_implies, implies_true,
        and_true, List.isPrefixOf_iff_prefix]
      cases negative <;>
        simp [NumberText.chars, List.cons_prefix_cons, letter 'n' rfl, letter 't' rfl,
          letter 'f' rfl, letter 'N' rfl, letter 'I' rfl, letter '-' rfl]

theorem read_datum_scalar (fuel : Nat) {text : List Char} (noText : '"' ∉ text.head?)
    (noList : '[' ∉ text.head?) (noMapping : '{' ∉ text.head?) :
    (readDatum (fuel + 1) text : Except Stop (Datum κ × List Char)) = readScalar text := by
  rw [readDatum.eq_def]
  dsimp only
  split
  · exact absurd rfl noText
  · exact absurd rfl noList
  · exact absurd rfl noMapping
  · rfl

theorem number_head {number : NumberText} (written : number.IsWritten) (rest : List Char) :
    ∃ c ∈ (number.chars ++ rest).head?, c = '-' ∨ isJsonDigit c = true := by
  obtain ⟨negative, whole, fraction, exponent⟩ := number
  obtain ⟨filled, plain⟩ := written.whole
  dsimp only at filled plain
  cases negative with
  | true => exact ⟨'-', rfl, Or.inl rfl⟩
  | false =>
      cases whole with
      | nil => exact absurd rfl filled
      | cons c digits => exact ⟨c, rfl, Or.inr (plain c List.mem_cons_self)⟩

/-- A number of which the value is known is read as it. -/
theorem read_datum_number {number : NumberText} {datum : Datum κ} {rest : List Char}
    (written : number.IsWritten) (stops : Stops rest) (value : number.value = .ok datum)
    (fuel : Nat) : readDatum (fuel + 1) (number.chars ++ rest) = .ok (datum, rest) := by
  obtain ⟨c, head, begins⟩ := number_head written rest
  have other {mark : Char} (odd : mark ≠ '-' ∧ isJsonDigit mark = false) :
      mark ∉ (number.chars ++ rest).head? := by
    intro same
    obtain rfl := Option.mem_unique same head
    rcases begins with minus | digit
    · exact odd.1 minus
    · rw [odd.2] at digit
      cases digit
  rw [read_datum_scalar fuel (other (by decide)) (other (by decide)) (other (by decide)),
    readScalar, read_word_digits written, number_text_chars written stops]
  dsimp only
  rw [value]
  rfl

theorem digits_value_natural (value : Nat) : digitsValue (naturalChars value) = value := by
  rw [digits_value_eq]
  exact Nat.ofDigitChars_ten_toDigits

theorem digits_value_zeros_append (count : Nat) (digits : List Char) :
    digitsValue (NumberLayout.zeros count ++ digits) = digitsValue digits := by
  induction count with
  | zero => rfl
  | succ count induction => exact induction

theorem digits_value_append_zeros (digits : List Char) (count : Nat) :
    digitsValue (digits ++ NumberLayout.zeros count) =
      digitsValue digits * Nat.pow 10 count := by
  induction count with
  | zero =>
      change digitsValue (digits ++ []) = digitsValue digits * 1
      rw [List.append_nil, Nat.mul_one]
  | succ count induction =>
      rw [NumberLayout.zeros, List.replicate_succ', ← List.append_assoc, digitsValue,
        List.foldl_append]
      change digitsValue (digits ++ NumberLayout.zeros count) * 10 + 0 = _
      rw [induction, Nat.pow_eq, Nat.pow_eq, Nat.pow_succ, Nat.add_zero, Nat.mul_assoc]

/-- Only zero is written with a zero in front. -/
theorem natural_head {value : Nat} (positive : 0 < value) :
    (naturalChars value).head? ≠ some '0' := by
  intro zero
  obtain ⟨least, _⟩ := natural_chars_bounds positive
  have plain := (natural_is_digits value).2
  have back := digits_value_natural value
  cases digits : naturalChars value with
  | nil =>
      rw [digits] at zero
      cases zero
  | cons c rest =>
      rw [digits] at zero least plain back
      cases zero
      have below := of_digit_chars_lt rest
        (fun other member => plain other (List.mem_cons_of_mem '0' member)) 0
      rw [← digits_value_eq, Nat.zero_add, Nat.one_mul] at below
      have same : digitsValue ('0' :: rest) = digitsValue rest := rfl
      rw [List.length_cons, Nat.add_sub_cancel] at least
      omega

theorem natural_lead (value : Nat) :
    naturalChars value = ['0'] ∨ (naturalChars value).head? ≠ some '0' := by
  rcases Nat.eq_zero_or_pos value with rfl | positive
  · exact Or.inl (by decide)
  · exact Or.inr (natural_head positive)

/-! ## Whole numbers -/

def integerNumber (value : Int) : NumberText :=
  ⟨decide (value < 0), naturalChars value.natAbs, none, none⟩

theorem integer_number_chars (value : Int) : (integerNumber value).chars = integerChars value := by
  cases value with
  | ofNat magnitude =>
      have notNegative : decide (Int.ofNat magnitude < 0) = false :=
        decide_eq_false (Int.not_lt.mpr (Int.natCast_nonneg magnitude))
      rw [integerNumber, NumberText.chars, notNegative]
      exact List.append_nil _
  | negSucc below =>
      have negative : decide (Int.negSucc below < 0) = true :=
        decide_eq_true (Int.negSucc_lt_zero below)
      rw [integerNumber, NumberText.chars, negative]
      exact congrArg (List.cons '-') (List.append_nil _)

theorem integer_number_written (value : Int) : (integerNumber value).IsWritten where
  whole := natural_is_digits value.natAbs
  lead := natural_lead value.natAbs
  fraction := fun _ none => absurd none (Option.not_mem_none _)
  exponent := fun _ none => absurd none (Option.not_mem_none _)

theorem integer_number_value {value : Int}
    (short : (naturalChars value.natAbs).length ≤ digitLimit) :
    ((integerNumber value).value : Except Stop (Datum κ)) = .ok (.integer value) := by
  have magnitude : (if decide (value < 0) = true then -(value.natAbs : Int) else value.natAbs) =
      value := by
    split
    · rename_i negative
      have below := of_decide_eq_true negative
      omega
    · rename_i notNegative
      have above : ¬value < 0 := fun below => notNegative (decide_eq_true below)
      omega
  rw [NumberText.value, integerNumber]
  dsimp only
  rw [if_neg (Nat.not_lt.mpr short), digits_value_natural, magnitude]

/-! ## Floating-point numbers -/

namespace NumberText

variable (number : NumberText)

def places : List Char := number.fraction.getD []

/-- All digits but the zeros in front. -/
def significant : List Char := (number.whole ++ number.places).dropWhile fun c => c == '0'

def power : Int :=
  match number.exponent with
  | some (negative, chars) => if negative then -(digitsValue chars : Int) else digitsValue chars
  | none => 0

theorem float_value (pointed : number.fraction ≠ none ∨ number.exponent ≠ none) :
    (number.value : Except Stop (Datum κ)) =
      .ok (.float (Binary64.ofDecimal number.negative (digitsValue number.significant)
        number.significant.length (number.power - number.places.length))) := by
  obtain ⟨negative, whole, fraction, exponent⟩ := number
  cases fraction with
  | some digits => cases exponent <;> rfl
  | none =>
      cases exponent with
      | some part => rfl
      | none => exact absurd rfl (pointed.resolve_left (fun some => some rfl))

/-- The number is written, is no whole number, and has the digits of a decimal with some zeros
behind them. -/
structure Denotes (decimal : Decimal) : Prop where
  written : number.IsWritten
  pointed : number.fraction ≠ none ∨ number.exponent ≠ none
  digits : ∃ count, number.significant = naturalChars decimal.digits ++ NumberLayout.zeros count ∧
    number.power - number.places.length = decimal.exponent - count

theorem Denotes.value {number : NumberText} {significand : Nat} {exponent : Int}
    (denotes : number.Denotes (Decimal.shortest significand exponent))
    (positive : 0 < significand) (canonical : Binary64.Canonical significand exponent)
    (bounded : exponent ≤ Binary64.greatestExponent) :
    (number.value : Except Stop (Datum κ)) =
      .ok (.float (.finite number.negative significand exponent)) := by
  obtain ⟨count, digits, power⟩ := denotes.digits
  rw [float_value number denotes.pointed, digits, power, digits_value_append_zeros,
    digits_value_natural, List.length_append, NumberLayout.zeros, List.length_replicate,
    of_decimal_shortest number.negative positive canonical bounded count]

end NumberText

theorem drop_zeros (count : Nat) {digits : List Char} (lead : digits.head? ≠ some '0') :
    (NumberLayout.zeros count ++ digits).dropWhile (fun c => c == '0') = digits := by
  have own : digits.dropWhile (fun c => c == '0') = digits := by
    cases digits with
    | nil => rfl
    | cons c rest =>
        have other : ¬(c == '0') = true := by
          rw [beq_iff_eq]
          rintro rfl
          exact lead rfl
        rw [List.dropWhile_cons, if_neg other]
  induction count with
  | zero => exact own
  | succ count induction => exact induction

def positionalNumber (negative : Bool) (digits : List Char) (pointAfter : Int) : NumberText :=
  if pointAfter ≤ 0 then
    ⟨negative, ['0'], some (NumberLayout.zeros (-pointAfter).toNat ++ digits), none⟩
  else if (digits.length : Int) ≤ pointAfter then
    ⟨negative, digits ++ NumberLayout.zeros (pointAfter.toNat - digits.length), some ['0'], none⟩
  else ⟨negative, digits.take pointAfter.toNat, some (digits.drop pointAfter.toNat), none⟩

def scientificNumber (layout : NumberLayout) (negative : Bool) (digits : List Char) (power : Int) :
    NumberText :=
  let exponent := naturalChars power.natAbs
  let padded := NumberLayout.zeros (layout.exponentDigits - exponent.length) ++ exponent
  match digits with
  | first :: second :: rest =>
      ⟨negative, [first], some (second :: rest), some (decide (power < 0), padded)⟩
  | short => ⟨negative, short, none, some (decide (power < 0), padded)⟩

def signChars (negative : Bool) : List Char := if negative then ['-'] else []

theorem positional_chars (negative : Bool) (digits : List Char) (pointAfter : Int) :
    (positionalNumber negative digits pointAfter).chars =
      signChars negative ++ NumberLayout.positional digits pointAfter := by
  unfold positionalNumber NumberLayout.positional
  split
  · simp [NumberText.chars, fractionChars, exponentChars, signChars]
  · split <;> simp [NumberText.chars, fractionChars, exponentChars, signChars]

theorem scientific_chars (layout : NumberLayout) (negative : Bool) (digits : List Char)
    (power : Int) :
    (scientificNumber layout negative digits power).chars =
      signChars negative ++ layout.scientific digits power := by
  unfold scientificNumber NumberLayout.scientific
  split <;> simp [NumberText.chars, fractionChars, exponentChars, signChars]

theorem no_fraction : ∀ digits ∈ (none : Option (List Char)), IsDigits digits :=
  fun _ none => absurd none (Option.not_mem_none _)

theorem no_exponent : ∀ part ∈ (none : Option (Bool × List Char)), IsDigits part.2 :=
  fun _ none => absurd none (Option.not_mem_none _)

section Layouts

variable (negative : Bool) {decimal : Decimal} {digits : List Char}
  (own : naturalChars decimal.digits = digits) (plain : IsDigits digits)
  (lead : digits.head? ≠ some '0')

include own plain lead

omit plain lead in
/-- A number with a point and no exponent. -/
theorem pointed_denotes (count : Nat) {whole places : List Char} (wholeDigits : IsDigits whole)
    (noZero : whole = ['0'] ∨ whole.head? ≠ some '0') (placesDigits : IsDigits places)
    (significant : (whole ++ places).dropWhile (fun c => c == '0') =
      digits ++ NumberLayout.zeros count)
    (power : -(places.length : Int) = decimal.exponent - count) :
    NumberText.Denotes ⟨negative, whole, some places, none⟩ decimal where
  written := by
    refine ⟨wholeDigits, noZero, ?_, no_exponent⟩
    rintro fraction ⟨⟩
    exact placesDigits
  pointed := Or.inl (Option.some_ne_none _)
  digits := by
    refine ⟨count, ?_, ?_⟩
    · rw [own]
      exact significant
    · simp only [NumberText.power, NumberText.places, Option.getD_some]
      omega

theorem point_before_denotes (before : decimal.exponent + digits.length ≤ 0) :
    NumberText.Denotes ⟨negative, ['0'],
      some (NumberLayout.zeros (-(decimal.exponent + digits.length)).toNat ++ digits), none⟩
      decimal := by
  apply pointed_denotes negative own 0 zero_is_digits (Or.inl rfl) (plain.zeros_append _)
  · exact (drop_zeros _ lead).trans (List.append_nil _).symm
  · rw [List.length_append, NumberLayout.zeros, List.length_replicate]
    omega

theorem point_behind_denotes (behind : (digits.length : Int) ≤ decimal.exponent + digits.length) :
    NumberText.Denotes ⟨negative, digits ++ NumberLayout.zeros
      ((decimal.exponent + digits.length).toNat - digits.length), some ['0'], none⟩ decimal := by
  have head (right : List Char) : (digits ++ right).head? ≠ some '0' := by
    rw [List.head?_append_of_ne_nil _ plain.1]
    exact lead
  apply pointed_denotes negative own
    ((decimal.exponent + digits.length).toNat - digits.length + 1) (plain.append_zeros _)
    (Or.inr (head _)) zero_is_digits
  · rw [List.append_assoc, NumberLayout.zeros, ← List.replicate_succ']
    exact drop_zeros 0 (head _)
  · rw [List.length_singleton]
    omega

theorem point_inside_denotes (after : 0 < decimal.exponent + digits.length)
    (inside : decimal.exponent + digits.length < digits.length) :
    NumberText.Denotes ⟨negative, digits.take (decimal.exponent + digits.length).toNat,
      some (digits.drop (decimal.exponent + digits.length).toNat), none⟩ decimal := by
  have whole : (digits.take (decimal.exponent + digits.length).toNat).head? = digits.head? := by
    rw [List.head?_take, if_neg (by omega)]
  apply pointed_denotes negative own 0
  · refine ⟨?_, fun c member => plain.2 c (List.mem_of_mem_take member)⟩
    intro nothing
    rw [nothing] at whole
    exact plain.1 (List.head?_eq_none_iff.mp whole.symm)
  · rw [whole]
    exact Or.inr lead
  · refine ⟨?_, fun c member => plain.2 c (List.mem_of_mem_drop member)⟩
    rw [ne_eq, List.drop_eq_nil_iff]
    omega
  · rw [List.take_append_drop]
    exact (drop_zeros 0 lead).trans (List.append_nil _).symm
  · rw [List.length_drop]
    omega

theorem positional_denotes :
    (positionalNumber negative digits (decimal.exponent + digits.length)).Denotes decimal := by
  unfold positionalNumber
  split
  · rename_i before
    exact point_before_denotes negative own plain lead before
  · rename_i after
    split
    · rename_i behind
      exact point_behind_denotes negative own plain lead behind
    · rename_i inside
      exact point_inside_denotes negative own plain lead (not_le.mp after) (not_le.mp inside)

theorem scientific_denotes (layout : NumberLayout) :
    (scientificNumber layout negative digits (decimal.exponent + digits.length - 1)).Denotes
      decimal := by
  have significant : digits.dropWhile (fun c => c == '0') = digits := drop_zeros 0 lead
  generalize powered : decimal.exponent + digits.length - 1 = power
  have exponent : (if decide (power < 0) = true then -(power.natAbs : Int) else power.natAbs) =
      power := by
    simp only [decide_eq_true_iff]
    split <;> omega
  have padded := (natural_is_digits power.natAbs).zeros_append
    (layout.exponentDigits - (naturalChars power.natAbs).length)
  unfold scientificNumber
  dsimp only
  split
  · rename_i first second rest
    refine ⟨⟨⟨List.cons_ne_nil _ _, ?_⟩, Or.inr lead, ?_, ?_⟩, Or.inl (by simp), 0, ?_, ?_⟩
    · exact fun c member => plain.2 c (List.mem_singleton.mp member ▸ List.mem_cons_self)
    · rintro fraction ⟨⟩
      exact ⟨List.cons_ne_nil _ _, fun c member => plain.2 c (List.mem_cons_of_mem _ member)⟩
    · rintro part ⟨⟩
      exact padded
    · rw [own]
      exact significant.trans (List.append_nil _).symm
    · simp only [NumberText.power, NumberText.places, Option.getD_some, digits_value_zeros_append,
        digits_value_natural, exponent]
      rw [← powered, List.length_cons]
      omega
  · rename_i single
    have one : digits.length = 1 := by
      rcases digits with _ | ⟨first, _ | ⟨second, rest⟩⟩
      · exact absurd rfl plain.1
      · rfl
      · exact absurd rfl (single first second rest)
    refine ⟨⟨plain, Or.inr lead, no_fraction, ?_⟩, Or.inr (by simp), 0, ?_, ?_⟩
    · rintro part ⟨⟩
      exact padded
    · rw [own, NumberText.significant, NumberText.places, Option.getD_none, List.append_nil]
      exact significant.trans (List.append_nil _).symm
    · simp only [NumberText.power, NumberText.places, Option.getD_none, digits_value_zeros_append,
        digits_value_natural, exponent, List.length_nil]
      omega

end Layouts

/-- A number that is no zero, in either layout. -/
def decimalNumber (layout : NumberLayout) (negative : Bool) (decimal : Decimal) : NumberText :=
  let digits := naturalChars decimal.digits
  let power := decimal.exponent + digits.length - 1
  if layout.positionalFrom ≤ power && power < layout.positionalBelow then
    positionalNumber negative digits (decimal.exponent + digits.length)
  else scientificNumber layout negative digits power

theorem decimal_number_chars (layout : NumberLayout) (negative : Bool) (decimal : Decimal) :
    (decimalNumber layout negative decimal).chars =
      signChars negative ++ layout.decimalChars decimal := by
  unfold decimalNumber NumberLayout.decimalChars
  dsimp only
  split
  · rw [positional_chars, Int.sub_add_cancel]
  · exact scientific_chars layout negative _ _

theorem decimal_number_denotes (layout : NumberLayout) (negative : Bool) {decimal : Decimal}
    (positive : 0 < decimal.digits) :
    (decimalNumber layout negative decimal).Denotes decimal ∧
      (decimalNumber layout negative decimal).negative = negative := by
  have plain := natural_is_digits decimal.digits
  have lead := natural_head positive
  unfold decimalNumber
  dsimp only
  split
  · refine ⟨positional_denotes negative rfl plain lead, ?_⟩
    unfold positionalNumber
    split
    · rfl
    · split <;> rfl
  · refine ⟨scientific_denotes negative rfl plain lead layout, ?_⟩
    unfold scientificNumber
    dsimp only
    split <;> rfl

def zeroNumber (negative : Bool) : NumberText := ⟨negative, ['0'], some ['0'], none⟩

theorem zero_number_written (negative : Bool) : (zeroNumber negative).IsWritten where
  whole := zero_is_digits
  lead := Or.inl rfl
  fraction := by
    rintro fraction ⟨⟩
    exact zero_is_digits
  exponent := no_exponent

theorem finite_chars (layout : NumberLayout) (negative : Bool) {significand : Nat}
    (exponent : Int) (positive : 0 < significand) :
    layout.chars (.finite negative significand exponent) =
      (decimalNumber layout negative (Decimal.shortest significand exponent)).chars := by
  have nonzero : ¬(significand == 0) = true := by
    rw [beq_iff_eq]
    omega
  rw [decimal_number_chars, NumberLayout.chars, if_neg nonzero, signChars]
  cases negative <;> rfl

/-- A finite number in the form in which it is kept is written as a number with its value. -/
theorem finite_number {negative : Bool} {significand : Nat} {exponent : Int}
    (canonical : Binary64.Canonical significand exponent)
    (bounded : exponent ≤ Binary64.greatestExponent) :
    ∃ number : NumberText, number.IsWritten ∧
      numbers.chars (.finite negative significand exponent) = number.chars ∧
      (number.value : Except Stop (Datum κ)) =
        .ok (.float (.finite negative significand exponent)) := by
  rcases Nat.eq_zero_or_pos significand with rfl | positive
  · obtain rfl : exponent = Binary64.leastExponent := canonical.full.resolve_right (by decide)
    refine ⟨zeroNumber negative, zero_number_written negative, ?_, rfl⟩
    cases negative <;> rfl
  · obtain ⟨denotes, sign⟩ := decimal_number_denotes numbers negative
      (Decimal.shortest_digits_pos positive canonical bounded)
    refine ⟨_, denotes.written, finite_chars numbers negative exponent positive, ?_⟩
    rw [denotes.value positive canonical bounded, sign]

end DocumentRules.Json
