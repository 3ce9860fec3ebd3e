import DocumentRules.Json.Printer
import DocumentRules.Json.Reader

/-!
Texts are read back from what is written for them. Every character is written as one element
of a text, which is the character itself, a short escape, or the code of a control character;
none of these is half of a pair.
-/

set_option autoImplicit false

namespace DocumentRules.Json

open Text

/-! ## Texts -/

theorem read_units_char (opening : Nat) {c : Char} (rest : List Char) (notQuote : c ≠ '"')
    (notEscape : c ≠ '\\') (printed : 32 ≤ c.toNat) :
    readUnits opening (c :: rest) = consUnit (.char c) (readUnits opening rest) := by
  rw [readUnits, if_neg (Nat.not_lt.mpr printed)]
  all_goals
    intros
    contradiction

theorem read_units_short (opening : Nat) {c meant : Char} (rest : List Char)
    (short : shortEscape? c = some meant) :
    readUnits opening ('\\' :: c :: rest) = consUnit (.char meant) (readUnits opening rest) := by
  have notCode : c ≠ 'u' := by
    rintro rfl
    cases short
  rw [readUnits]
  · simp only [short]
  all_goals
    intros
    contradiction

theorem read_units_code (opening : Nat) {a b c d : Char} {unit : Nat} {rest : List Char}
    (more : rest ≠ []) (value : unit? a b c d = some unit) :
    readUnits opening ('\\' :: 'u' :: a :: b :: c :: d :: rest) =
      consUnit (.code unit) (readUnits opening rest) := by
  have some : rest.isEmpty = false := List.isEmpty_eq_false_iff.mpr more
  rw [readUnits, some, value]

/-- The character itself, or the code of a control character. -/
def Spells (c : Char) (unit : TextUnit) : Prop :=
  unit = .char c ∨ (unit = .code c.toNat ∧ c.toNat < 32)

theorem hex_digits_four (code : Nat) :
    hexDigits 4 code =
      [hexDigit (code / 16 / 16 / 16 % 16), hexDigit (code / 16 / 16 % 16),
        hexDigit (code / 16 % 16), hexDigit (code % 16)] := rfl

theorem unit_of_control : ∀ code : Nat, code < 32 →
    unit? (hexDigit (code / 16 / 16 / 16 % 16)) (hexDigit (code / 16 / 16 % 16))
      (hexDigit (code / 16 % 16)) (hexDigit (code % 16)) = some code := by
  decide

theorem char_of_code {c : Char} {code : Nat} (same : (c.toNat == code) = true) :
    Char.ofNat code = c := by
  rw [← beq_iff_eq.mp same, Char.ofNat_toNat]

theorem read_units_escaped (opening : Nat) (c : Char) {rest : List Char} (more : rest ≠ []) :
    ∃ unit, readUnits opening (escapedChar c ++ rest) = consUnit unit (readUnits opening rest) ∧
      Spells c unit := by
  have short {letter : Char} (meaning : shortEscape? letter = some c) :
      ∃ unit, readUnits opening ('\\' :: letter :: rest) =
        consUnit unit (readUnits opening rest) ∧ Spells c unit :=
    ⟨.char c, read_units_short opening rest meaning, Or.inl rfl⟩
  unfold escapedChar
  split
  · rename_i quote
    obtain rfl := beq_iff_eq.mp quote
    exact short rfl
  rename_i notQuote
  split
  · rename_i escape
    obtain rfl := beq_iff_eq.mp escape
    exact short rfl
  rename_i notEscape
  split
  · rename_i newLine
    exact short (beq_iff_eq.mp newLine ▸ rfl)
  split
  · rename_i back
    exact short (beq_iff_eq.mp back ▸ rfl)
  split
  · rename_i tab
    exact short (beq_iff_eq.mp tab ▸ rfl)
  split
  · rename_i backspace
    exact short (congrArg some (char_of_code backspace))
  split
  · rename_i formFeed
    exact short (congrArg some (char_of_code formFeed))
  split
  · rename_i control
    rw [hex_digits_four]
    exact ⟨.code c.toNat, read_units_code opening more (unit_of_control c.toNat control),
      Or.inr ⟨rfl, control⟩⟩
  · rename_i printed
    exact ⟨.char c, read_units_char opening rest (by simpa using notQuote)
      (by simpa using notEscape) (Nat.not_lt.mp printed), Or.inl rfl⟩

/-- No control character is part of a pair. -/
theorem join_spelled {c : Char} {unit : TextUnit} (spells : Spells c unit)
    (units : List TextUnit) :
    joinUnits? (unit :: units) = (joinUnits? units).map (c :: ·) := by
  rcases spells with rfl | ⟨rfl, control⟩
  · rw [joinUnits?]
  · have notHigh : isHighSurrogate c.toNat = false := by
      simp only [isHighSurrogate, Bool.and_eq_false_iff, decide_eq_false_iff_not]
      omega
    have notLow : isLowSurrogate c.toNat = false := by
      simp only [isLowSurrogate, Bool.and_eq_false_iff, decide_eq_false_iff_not]
      omega
    have own : unitChar? c.toNat = some c := by
      rw [unitChar?, notHigh, notLow, if_neg (by decide), Char.ofNat_toNat]
    have alone (later : List TextUnit) :
        ((unitChar? c.toNat).bind fun own => (joinUnits? later).map (own :: ·)) =
          (joinUnits? later).map (c :: ·) := by
      rw [own]
      rfl
    rcases units with _ | ⟨next, later⟩
    · exact alone []
    · cases next with
      | char other => exact alone (.char other :: later)
      | code low =>
          rw [joinUnits?, notHigh, Bool.false_and, if_neg (by decide)]
          exact alone (.code low :: later)

theorem read_units_chars (opening : Nat) (word rest : List Char) :
    ∃ units, readUnits opening (word.flatMap escapedChar ++ '"' :: rest) = .ok (units, rest) ∧
      joinUnits? units = some word := by
  induction word with
  | nil => exact ⟨[], by rw [List.flatMap_nil, List.nil_append, readUnits], rfl⟩
  | cons c word induction =>
      obtain ⟨units, read, joins⟩ := induction
      have more : word.flatMap escapedChar ++ '"' :: rest ≠ [] :=
        List.append_ne_nil_of_right_ne_nil _ (List.cons_ne_nil _ _)
      obtain ⟨unit, first, spells⟩ := read_units_escaped opening c more
      refine ⟨unit :: units, ?_, by rw [join_spelled spells, joins, Option.map_some]⟩
      rw [List.flatMap_cons, List.append_assoc, first, read]
      rfl

/-- A text is read back from what stands after its opening quote. -/
theorem read_text_chars (opening : Nat) (text : String) (rest : List Char) :
    readText opening (text.toList.flatMap escapedChar ++ '"' :: rest) =
      .ok (text.toList, rest) := by
  obtain ⟨units, read, joins⟩ := read_units_chars opening text.toList rest
  rw [readText, read, Except.bind]
  simp only [joins]

end DocumentRules.Json
