import DocumentRules.Proofs.Number.Decimal
import DocumentRules.Proofs.Text.Spans

/-!
Which texts are read as whole numbers in base sixteen. Blanks may surround the number and a
plus sign may lead it; a marker may stand before the digits, and single low lines may stand
between them. The number is less than the power of sixteen that the length of the text names.
-/

set_option autoImplicit false

namespace DocumentRules.Number

open DocumentRules.Text

/-! ## Digits -/

/-- A digit of base sixteen, in either case. -/
def IsHexDigit (c : Char) : Prop :=
  c.isDigit = true ∨ ('a' ≤ c ∧ c ≤ 'f') ∨ ('A' ≤ c ∧ c ≤ 'F')

instance : DecidablePred IsHexDigit := fun c =>
  inferInstanceAs (Decidable (c.isDigit = true ∨ ('a' ≤ c ∧ c ≤ 'f') ∨ ('A' ≤ c ∧ c ≤ 'F')))

theorem hex_digit_iff (c : Char) :
    IsHexDigit c ↔ (48 ≤ c.toNat ∧ c.toNat ≤ 57) ∨ (97 ≤ c.toNat ∧ c.toNat ≤ 102) ∨
      (65 ≤ c.toNat ∧ c.toNat ≤ 70) := by
  rw [IsHexDigit, Char.isDigit_iff_toNat]
  simp only [Char.le_def, UInt32.le_iff_toNat_le]
  exact Iff.rfl

theorem digit_below_sixteen (c : Char) (value : Nat) :
    digitBelow? 16 c = some value ↔ hexDigitValue? c.toNat = some value ∧ value < 16 := by
  simp [digitBelow?]

theorem hex_digit_some {c : Char} (digit : IsHexDigit c) :
    ∃ value, digitBelow? 16 c = some value := by
  rw [hex_digit_iff] at digit
  simp only [digit_below_sixteen, hexDigitValue?, Bool.and_eq_true, decide_eq_true_eq]
  rcases digit with decimal | lower | upper
  · exact ⟨c.toNat - 48, by rw [if_pos decimal], by omega⟩
  · have noDecimal : ¬(48 ≤ c.toNat ∧ c.toNat ≤ 57) := by omega
    have noUpper : ¬(65 ≤ c.toNat ∧ c.toNat ≤ 70) := by omega
    exact ⟨c.toNat - 87, by rw [if_neg noDecimal, if_neg noUpper, if_pos lower], by omega⟩
  · have noDecimal : ¬(48 ≤ c.toNat ∧ c.toNat ≤ 57) := by omega
    exact ⟨c.toNat - 55, by rw [if_neg noDecimal, if_pos upper], by omega⟩

theorem hex_digit_none {c : Char} (other : ¬IsHexDigit c) : digitBelow? 16 c = none := by
  rw [hex_digit_iff] at other
  have none : hexDigitValue? c.toNat = none := by
    simp only [hexDigitValue?, Bool.and_eq_true, decide_eq_true_eq]
    rw [if_neg (by omega), if_neg (by omega), if_neg (by omega)]
  simp [digitBelow?, none]

theorem hex_digit_below {c : Char} {value : Nat} (digit : digitBelow? 16 c = some value) :
    value < 16 := ((digit_below_sixteen c value).mp digit).2

/-- A digit of base sixteen is no blank, no mark and no letter of a marker. -/
theorem hex_digit_facts {c : Char} (digit : IsHexDigit c) :
    isPlainBlank c.toNat = false ∧ c ≠ '_' ∧ c ≠ 'x' ∧ c ≠ 'X' ∧ c ≠ '+' ∧ c ≠ '-' := by
  rw [hex_digit_iff] at digit
  refine ⟨?_, ?_, ?_, ?_, ?_, ?_⟩
  · simp only [isPlainBlank, Bool.or_eq_false_iff, beq_eq_false_iff_ne, ne_eq,
      Bool.and_eq_false_iff, decide_eq_false_iff_not]
    omega
  all_goals
    intro same
    rw [same] at digit
    revert digit
    decide

/-! ## Rows of digits -/

def AreBlanks (text : List Char) : Prop := ∀ c ∈ text, isPlainBlank c.toNat = true

/-- Digits with single low lines between some of them, and blanks behind the last. -/
inductive IsDigitRow : List Char → Prop
  | last (c : Char) (back : List Char) (digit : IsHexDigit c) (blanks : AreBlanks back) :
      IsDigitRow (c :: back)
  | next (c : Char) (rest : List Char) (digit : IsHexDigit c) (row : IsDigitRow rest) :
      IsDigitRow (c :: rest)
  | apart (c : Char) (rest : List Char) (digit : IsHexDigit c) (row : IsDigitRow rest) :
      IsDigitRow (c :: '_' :: rest)

/-- What may follow a digit. -/
def Continues (text : List Char) : Prop :=
  AreBlanks text ∨ IsDigitRow text ∨ ∃ rest, text = '_' :: rest ∧ IsDigitRow rest

theorem digit_row_cons (c : Char) (rest : List Char) :
    IsDigitRow (c :: rest) ↔ IsHexDigit c ∧ Continues rest := by
  constructor
  · intro row
    cases row with
    | last _ _ digit blanks => exact ⟨digit, Or.inl blanks⟩
    | next _ _ digit row => exact ⟨digit, Or.inr (Or.inl row)⟩
    | apart _ rest digit row => exact ⟨digit, Or.inr (Or.inr ⟨rest, rfl, row⟩)⟩
  · intro parts
    obtain ⟨digit, blanks | row | ⟨later, same, row⟩⟩ := parts
    · exact .last c rest digit blanks
    · exact .next c rest digit row
    · rw [same]
      exact .apart c later digit row

theorem digit_row_nil : ¬IsDigitRow [] := by
  intro row
  cases row

theorem continues_cons_iff (c : Char) (rest : List Char) :
    Continues (c :: rest) ↔
      AreBlanks (c :: rest) ∨ IsDigitRow (c :: rest) ∨ (c = '_' ∧ IsDigitRow rest) := by
  simp [Continues, and_assoc]

/-- Digits are read when they are a row, or go on as one does behind a digit. -/
theorem read_digits_iff (text : List Char) (afterDigit : Bool) (count value : Nat) :
    (readDigits 16 text afterDigit count value).isSome = true ↔
      IsDigitRow text ∨ (afterDigit = true ∧ Continues text) := by
  induction text generalizing afterDigit count value with
  | nil =>
      have ends : Continues [] := Or.inl (by simp [AreBlanks])
      cases afterDigit <;> simp [readDigits, digit_row_nil, ends]
  | cons c rest induction =>
      rw [readDigits, continues_cons_iff, digit_row_cons]
      by_cases digit : IsHexDigit c
      · obtain ⟨own, read⟩ := hex_digit_some digit
        have facts := hex_digit_facts digit
        have noBlanks : ¬AreBlanks (c :: rest) := by
          intro blanks
          have blank := blanks c List.mem_cons_self
          rw [facts.1] at blank
          cases blank
        have row : IsDigitRow rest ∨ Continues rest ↔ Continues rest := by
          apply or_iff_right_of_imp
          exact fun row => Or.inr (Or.inl row)
        rw [read]
        simp only [induction, true_and, row, digit, noBlanks, facts.2.1, false_and, or_false,
          false_or, iff_self_or, and_imp, imp_self, implies_true]
      · rw [hex_digit_none digit]
        by_cases mark : c = '_'
        · subst mark
          have noBlanks : ¬AreBlanks ('_' :: rest) := by
            intro blanks
            cases blanks '_' List.mem_cons_self
          cases afterDigit <;> simp [induction, digit, noBlanks]
        · cases afterDigit <;> simp [mark, digit, AreBlanks]

/-! ## Numbers -/

/-- The markers that may stand before the digits. -/
def hexMarkers : List (List Char) :=
  [[], ['0', 'x'], ['0', 'X'], ['0', 'x', '_'], ['0', 'X', '_']]

/-- A row of digits with a marker before it. -/
def IsMagnitude (text : List Char) : Prop :=
  ∃ marker ∈ hexMarkers, ∃ row, IsDigitRow row ∧ text = marker ++ row

/-- Behind a digit stands no letter of a marker. -/
theorem continues_unmarked {c : Char} {rest : List Char} (continues : Continues (c :: rest)) :
    c ≠ 'x' ∧ c ≠ 'X' := by
  rw [continues_cons_iff, digit_row_cons] at continues
  rcases continues with blanks | parts | low
  · have blank := blanks c List.mem_cons_self
    constructor <;> intro same <;> rw [same] at blank <;> cases blank
  · have facts := hex_digit_facts parts.1
    exact ⟨facts.2.2.1, facts.2.2.2.1⟩
  · rw [low.1]
    decide

theorem skip_unmarked {row : List Char} (digits : IsDigitRow row) :
    skipBaseMarker 16 row = row := by
  unfold skipBaseMarker
  split
  · rename_i marker rest _
    have plain := continues_unmarked ((digit_row_cons '0' (marker :: rest)).mp digits).2
    simp [plain]
  · rfl

theorem skip_marked {marker : Char} (marked : marker = 'x' ∨ marker = 'X') {row : List Char}
    (digits : IsDigitRow row) : skipBaseMarker 16 ('0' :: marker :: row) = row := by
  cases row with
  | nil => exact absurd digits digit_row_nil
  | cons c rest =>
      have facts := hex_digit_facts ((digit_row_cons c rest).mp digits).1
      rcases marked with lower | upper
      · simp [skipBaseMarker, lower, facts.2.1]
      · simp [skipBaseMarker, upper, facts.2.1]

/-- The digits behind a marker are a row when the whole is a magnitude. -/
theorem skip_hex_marker (text : List Char) :
    IsDigitRow (skipBaseMarker 16 text) ↔ IsMagnitude text := by
  constructor
  · intro row
    unfold skipBaseMarker at row
    split at row
    · rename_i marker rest _
      split at row
      · rename_i marked
        simp only [Bool.or_eq_true, beq_iff_eq] at marked
        split at row
        · rename_i digits
          refine ⟨['0', marker, '_'], ?_, digits, row, rfl⟩
          rcases marked with lower | upper
          · simp [hexMarkers, lower]
          · simp [hexMarkers, upper]
        · refine ⟨['0', marker], ?_, rest, row, rfl⟩
          rcases marked with lower | upper
          · simp [hexMarkers, lower]
          · simp [hexMarkers, upper]
      · exact ⟨[], by simp [hexMarkers], _, row, rfl⟩
    · exact ⟨[], by simp [hexMarkers], _, row, rfl⟩
  · intro magnitude
    obtain ⟨marker, listed, row, digits, split⟩ := magnitude
    have skipped : skipBaseMarker 16 text = row := by
      rw [split]
      simp only [hexMarkers, List.mem_cons, List.not_mem_nil, or_false] at listed
      rcases listed with rfl | rfl | rfl | rfl | rfl
      · exact skip_unmarked digits
      · exact skip_marked (Or.inl rfl) digits
      · exact skip_marked (Or.inr rfl) digits
      · rfl
      · rfl
    rw [skipped]
    exact digits

theorem read_magnitude_iff (text : List Char) :
    (readMagnitude 16 text).isSome = true ↔ IsMagnitude text := by
  have digits := read_digits_iff (skipBaseMarker 16 text) false 0 0
  simp only [Bool.false_eq_true, false_and, or_false] at digits
  rw [← skip_hex_marker, ← digits, readMagnitude]
  cases readDigits 16 (skipBaseMarker 16 text) false 0 0 <;> simp

theorem magnitude_head {text : List Char} (magnitude : IsMagnitude text) :
    ∃ c rest, text = c :: rest ∧ IsHexDigit c := by
  obtain ⟨marker, listed, row, digits, split⟩ := magnitude
  have zero : IsHexDigit '0' := Or.inl (by decide)
  simp only [hexMarkers, List.mem_cons, List.not_mem_nil, or_false] at listed
  rcases listed with rfl | rfl | rfl | rfl | rfl
  · cases row with
    | nil => exact absurd digits digit_row_nil
    | cons c rest => exact ⟨c, rest, split, ((digit_row_cons c rest).mp digits).1⟩
  all_goals exact ⟨'0', _, split, zero⟩

/-- Blanks, perhaps a plus sign, and a magnitude. -/
def IsHexNumber (text : List Char) : Prop :=
  ∃ front sign magnitude, AreBlanks front ∧ (sign = [] ∨ sign = ['+']) ∧ IsMagnitude magnitude ∧
    text = front ++ (sign ++ magnitude)

theorem read_signed_iff (text : List Char) (noMinus : '-' ∉ text) :
    (readSigned 16 text).isSome = true ↔
      ∃ sign magnitude, (sign = [] ∨ sign = ['+']) ∧ IsMagnitude magnitude ∧
        text = sign ++ magnitude := by
  constructor
  · intro read
    unfold readSigned at read
    split at read
    · rename_i digits
      rw [Option.isSome_map, read_magnitude_iff] at read
      exact ⟨['+'], digits, Or.inr rfl, read, rfl⟩
    · exact absurd List.mem_cons_self noMinus
    · rw [Option.isSome_map, read_magnitude_iff] at read
      exact ⟨[], _, Or.inl rfl, read, rfl⟩
  · rintro ⟨sign, magnitude, signed, digits, split⟩
    have read := (read_magnitude_iff magnitude).mpr digits
    rcases signed with rfl | rfl
    · obtain ⟨c, rest, same, digit⟩ := magnitude_head digits
      have facts := hex_digit_facts digit
      rw [split, List.nil_append, readSigned, Option.isSome_map]
      · exact read
      · intro later plus
        rw [same] at plus
        exact facts.2.2.2.2.1 (List.cons.inj plus).1
      · intro later minus
        rw [same] at minus
        exact facts.2.2.2.2.2 (List.cons.inj minus).1
    · rw [split, List.singleton_append, readSigned, Option.isSome_map]
      exact read

theorem skip_blanks_split (text : List Char) :
    ∃ front, AreBlanks front ∧ text = front ++ skipPlainBlanks text :=
  span_cut (fun c => isPlainBlank c.toNat) text

theorem mem_of_skip_blanks {c : Char} {text : List Char} (member : c ∈ skipPlainBlanks text) :
    c ∈ text :=
  (List.dropWhile_suffix _).subset member

theorem skip_blanks_append {front : List Char} (blanks : AreBlanks front) {c : Char}
    (other : isPlainBlank c.toNat = false) (rest : List Char) :
    skipPlainBlanks (front ++ c :: rest) = c :: rest := by
  rw [skipPlainBlanks, drop_span blanks]
  intro d head
  rw [List.head?_cons, Option.some.injEq] at head
  rw [← head, other]

theorem signed_head {sign magnitude : List Char} (signed : sign = [] ∨ sign = ['+'])
    (digits : IsMagnitude magnitude) :
    ∃ c rest, sign ++ magnitude = c :: rest ∧ isPlainBlank c.toNat = false := by
  rcases signed with none | plus
  · obtain ⟨c, rest, same, digit⟩ := magnitude_head digits
    refine ⟨c, rest, ?_, (hex_digit_facts digit).1⟩
    rw [none, same, List.nil_append]
  · refine ⟨'+', magnitude, ?_, by decide⟩
    rw [plus, List.singleton_append]

/-- A text without a minus sign is read when it is a number of base sixteen. -/
theorem read_plain_iff (text : List Char) (noMinus : '-' ∉ text) :
    (readSigned 16 (skipPlainBlanks text)).isSome = true ↔ IsHexNumber text := by
  obtain ⟨front, blanks, split⟩ := skip_blanks_split text
  rw [read_signed_iff _ (mt mem_of_skip_blanks noMinus)]
  constructor
  · rintro ⟨sign, magnitude, signed, digits, same⟩
    refine ⟨front, sign, magnitude, blanks, signed, digits, ?_⟩
    rw [← same]
    exact split
  · rintro ⟨own, sign, magnitude, ownBlanks, signed, digits, same⟩
    refine ⟨sign, magnitude, signed, digits, ?_⟩
    obtain ⟨c, rest, head, other⟩ := signed_head signed digits
    rw [same, head, skip_blanks_append ownBlanks other]

/-! ## Texts in any decimal system -/

/-- A number of base sixteen, in which digits of every decimal system and all blanks may stand. -/
def IsHexText (text : List Char) : Prop :=
  ∃ plain, text.mapM plainForm? = some plain ∧ IsHexNumber plain

theorem plain_text_cons (c : Char) (rest plain : List Char) :
    (c :: rest).mapM plainForm? = some plain ↔
      ∃ p ps, plainForm? c = some p ∧ rest.mapM plainForm? = some ps ∧ plain = p :: ps := by
  rw [List.mapM_cons]
  simp only [Option.bind_eq_bind, Option.pure_def, Option.bind_eq_some_iff, Option.some.injEq]
  constructor
  · rintro ⟨p, own, ps, later, rfl⟩
    exact ⟨p, ps, own, later, rfl⟩
  · rintro ⟨p, ps, own, later, rfl⟩
    exact ⟨p, own, ps, later, rfl⟩

theorem plain_text_length {text plain : List Char} (mapped : text.mapM plainForm? = some plain) :
    plain.length = text.length := by
  induction text generalizing plain with
  | nil =>
      cases mapped
      rfl
  | cons c rest induction =>
      obtain ⟨p, ps, _, later, rfl⟩ := (plain_text_cons c rest plain).mp mapped
      rw [List.length_cons, List.length_cons, induction later]

theorem plain_text_mem {text plain : List Char} (mapped : text.mapM plainForm? = some plain)
    {p : Char} : p ∈ plain ↔ ∃ c ∈ text, plainForm? c = some p := by
  induction text generalizing plain with
  | nil =>
      cases mapped
      simp
  | cons c rest induction =>
      obtain ⟨own, ps, found, later, rfl⟩ := (plain_text_cons c rest plain).mp mapped
      simp [induction later, found, eq_comm]

theorem digit_value_below {code value : Nat} (found : digitValue? code = some value) :
    value < 10 := by
  simp only [digitValue?, Option.map_eq_some_iff] at found
  obtain ⟨first, system, rest⟩ := found
  have holds := List.find?_some system
  simp only [Bool.and_eq_true, decide_eq_true_eq] at holds
  omega

theorem decimal_digit_char {value : Nat} (below : value < 10) :
    (Char.ofNat (48 + value)).isDigit = true := by
  have all : ∀ value < 10, (Char.ofNat (48 + value)).isDigit = true := by decide
  exact all value below

/-- Only digits and blanks have another plain form than themselves. -/
theorem of_plain_form {c p : Char} (found : plainForm? c = some p) (noDigit : p.isDigit = false)
    (noBlank : p ≠ ' ') : c = p := by
  unfold plainForm? at found
  split at found
  · exact Option.some.inj found
  · split at found
    · exact absurd (Option.some.inj found).symm noBlank
    · obtain ⟨value, system, same⟩ := Option.map_eq_some_iff.mp found
      have digit := decimal_digit_char (digit_value_below system)
      rw [same, noDigit] at digit
      cases digit

theorem plain_without_minus {text plain : List Char} (mapped : text.mapM plainForm? = some plain)
    (noMinus : '-' ∉ text) : '-' ∉ plain := by
  intro member
  obtain ⟨c, inside, found⟩ := (plain_text_mem mapped).mp member
  rw [of_plain_form found (by decide) (by decide)] at inside
  exact noMinus inside

/-- A text without a minus sign is read as a number of base sixteen when it is one. -/
theorem read_hex_iff (text : List Char) (noMinus : '-' ∉ text) :
    (readInteger 16 text).isSome = true ↔ IsHexText text := by
  rw [readInteger, IsHexText]
  cases mapped : text.mapM plainForm? with
  | none => simp
  | some plain =>
      simp [read_plain_iff plain (plain_without_minus mapped noMinus)]

theorem digit_row_of_digits {text : List Char} (digits : ∀ c ∈ text, IsHexDigit c)
    (filled : text ≠ []) : IsDigitRow text := by
  induction text with
  | nil => exact absurd rfl filled
  | cons c rest induction =>
      rw [List.forall_mem_cons] at digits
      by_cases none : rest = []
      · rw [none]
        exact .last c [] digits.1 (by simp [AreBlanks])
      · exact .next c rest digits.1 (induction digits.2 none)

/-- Digits alone are a number. -/
theorem hex_text_of_digits {text : List Char} (digits : ∀ c ∈ text, IsHexDigit c)
    (filled : text ≠ []) : IsHexText text := by
  have plain : ∀ c ∈ text, c.toNat < 127 := by
    intro c member
    have digit := (hex_digit_iff c).mp (digits c member)
    omega
  have row := digit_row_of_digits digits filled
  exact ⟨text, map_plain_form text plain, [], [], text, by simp [AreBlanks], Or.inl rfl,
    ⟨[], by simp [hexMarkers], text, row, rfl⟩, rfl⟩

/-! ## The characters of a number -/

def IsNumberChar (c : Char) : Prop :=
  isPlainBlank c.toNat = true ∨ IsHexDigit c ∨ c ∈ ['+', '_', 'x', 'X']

instance : DecidablePred IsNumberChar := fun c =>
  inferInstanceAs
    (Decidable (isPlainBlank c.toNat = true ∨ IsHexDigit c ∨ c ∈ ['+', '_', 'x', 'X']))

theorem digit_row_chars {row : List Char} (digits : IsDigitRow row) :
    ∀ c ∈ row, IsNumberChar c := by
  induction digits with
  | last c back digit blanks =>
      rw [List.forall_mem_cons]
      exact ⟨Or.inr (Or.inl digit), fun d member => Or.inl (blanks d member)⟩
  | next c rest digit row induction =>
      rw [List.forall_mem_cons]
      exact ⟨Or.inr (Or.inl digit), induction⟩
  | apart c rest digit row induction =>
      rw [List.forall_mem_cons, List.forall_mem_cons]
      exact ⟨Or.inr (Or.inl digit), by decide, induction⟩

theorem hex_number_chars {text : List Char} (number : IsHexNumber text) :
    ∀ c ∈ text, IsNumberChar c := by
  obtain ⟨front, sign, magnitude, blanks, signed, ⟨marker, listed, row, digits, rfl⟩, rfl⟩ := number
  intro c member
  simp only [List.mem_append] at member
  rcases member with inFront | inSign | inMarker | inRow
  · exact Or.inl (blanks c inFront)
  · rcases signed with none | plus
    · rw [none] at inSign
      cases inSign
    · rw [plus, List.mem_singleton] at inSign
      rw [inSign]
      decide
  · have markers : ∀ marker ∈ hexMarkers, (marker.all fun c => decide (IsNumberChar c)) = true := by
      decide
    simpa using List.all_eq_true.mp (markers marker listed) c inMarker
  · exact digit_row_chars digits c inRow

/-- A basic character that no number holds is not in the text of one. -/
theorem not_mem_hex_text {text : List Char} (number : IsHexText text) {c : Char}
    (basic : plainForm? c = some c) (other : ¬IsNumberChar c) : c ∉ text := by
  intro member
  obtain ⟨plain, mapped, written⟩ := number
  exact other (hex_number_chars written c ((plain_text_mem mapped).mpr ⟨c, member, basic⟩))

/-! ## The size of a number -/

theorem power_step (length : Nat) : Nat.pow 16 (length + 1) = Nat.pow 16 length * 16 := rfl

theorem power_mono {shorter longer : Nat} (bound : shorter ≤ longer) :
    Nat.pow 16 shorter ≤ Nat.pow 16 longer := Nat.pow_le_pow_right (by decide) bound

/-- One digit more, and one place less to come. -/
theorem digit_shifted (value length : Nat) {own : Nat} (below : own < 16) :
    (value * 16 + own + 1) * Nat.pow 16 length ≤ (value + 1) * Nat.pow 16 (length + 1) := by
  have larger : value * 16 + own + 1 ≤ (value + 1) * 16 := by omega
  calc (value * 16 + own + 1) * Nat.pow 16 length
      ≤ ((value + 1) * 16) * Nat.pow 16 length := Nat.mul_le_mul_right _ larger
    _ = (value + 1) * Nat.pow 16 (length + 1) := by
        rw [power_step, Nat.mul_assoc, Nat.mul_comm 16]

/-- Each character makes the number at most sixteen times as large. -/
theorem read_digits_bound (text : List Char) (afterDigit : Bool) (count value : Nat)
    {read : Nat × Nat} (ran : readDigits 16 text afterDigit count value = some read) :
    read.2 < (value + 1) * Nat.pow 16 text.length := by
  induction text generalizing afterDigit count value with
  | nil =>
      cases afterDigit with
      | false => cases ran
      | true =>
          rw [readDigits, if_pos rfl, Option.some.injEq] at ran
          rw [← ran]
          exact Nat.lt_of_lt_of_eq (Nat.lt_succ_self value) (Nat.mul_one _).symm
  | cons c rest induction =>
      rw [List.length_cons]
      rw [readDigits] at ran
      cases digit : digitBelow? 16 c with
      | some own =>
          rw [digit] at ran
          have later := induction true (count + 1) (value * 16 + own) ran
          exact Nat.lt_of_lt_of_le later (digit_shifted value rest.length (hex_digit_below digit))
      | none =>
          rw [digit] at ran
          simp only at ran
          have grown : (value + 1) * Nat.pow 16 rest.length ≤
              (value + 1) * Nat.pow 16 (rest.length + 1) :=
            Nat.mul_le_mul_left _ (power_mono (Nat.le_succ rest.length))
          split at ran
          · split at ran
            · exact Nat.lt_of_lt_of_le (induction false count value ran) grown
            · cases ran
          · split at ran
            · rw [Option.some.injEq] at ran
              have least := Nat.le_mul_of_pos_right (value + 1)
                (Nat.pow_pos (by decide) : 0 < Nat.pow 16 rest.length)
              rw [← ran]
              exact Nat.lt_of_lt_of_le (Nat.lt_succ_self value) (Nat.le_trans least grown)
            · cases ran

theorem skip_marker_length (text : List Char) : (skipBaseMarker 16 text).length ≤ text.length := by
  unfold skipBaseMarker
  split
  · split
    · split <;> simp only [List.length_cons] <;> omega
    · exact Nat.le_refl _
  · exact Nat.le_refl _

theorem read_magnitude_bound {text : List Char} {value : Nat}
    (ran : readMagnitude 16 text = some value) : value < Nat.pow 16 text.length := by
  rw [readMagnitude] at ran
  cases read : readDigits 16 (skipBaseMarker 16 text) false 0 0 with
  | none =>
      rw [read] at ran
      cases ran
  | some counted =>
      rw [read] at ran
      have below := read_digits_bound _ _ _ _ read
      have grown := power_mono (skip_marker_length text)
      have same : counted.2 = value := by simpa using ran
      rw [Nat.zero_add, Nat.one_mul] at below
      omega

theorem read_signed_bounds {text : List Char} (noMinus : '-' ∉ text) {value : Int}
    (ran : readSigned 16 text = some value) :
    ∃ magnitude : Nat, value = magnitude ∧ magnitude < Nat.pow 16 text.length := by
  unfold readSigned at ran
  split at ran
  · rename_i digits
    obtain ⟨magnitude, read, same⟩ := Option.map_eq_some_iff.mp ran
    have below := read_magnitude_bound read
    have grown := power_mono (Nat.le_succ digits.length)
    exact ⟨magnitude, same.symm, Nat.lt_of_lt_of_le below grown⟩
  · exact absurd List.mem_cons_self noMinus
  · obtain ⟨magnitude, read, same⟩ := Option.map_eq_some_iff.mp ran
    exact ⟨magnitude, same.symm, read_magnitude_bound read⟩

/-- A number of base sixteen without a minus sign is less than its length allows. -/
theorem read_hex_bounds {text : List Char} (noMinus : '-' ∉ text) {value : Int}
    (ran : readInteger 16 text = some value) :
    ∃ magnitude : Nat, value = magnitude ∧ magnitude < Nat.pow 16 text.length := by
  rw [readInteger] at ran
  cases mapped : text.mapM plainForm? with
  | none =>
      rw [mapped] at ran
      cases ran
  | some plain =>
      rw [mapped] at ran
      have clean := mt mem_of_skip_blanks (plain_without_minus mapped noMinus)
      obtain ⟨magnitude, same, below⟩ := read_signed_bounds clean ran
      have shorter : (skipPlainBlanks plain).length ≤ plain.length :=
        (List.dropWhile_suffix _).length_le
      rw [plain_text_length mapped] at shorter
      exact ⟨magnitude, same, Nat.lt_of_lt_of_le below (power_mono shorter)⟩

end DocumentRules.Number
