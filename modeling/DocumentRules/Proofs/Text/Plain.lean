import DocumentRules.Bundle

/-!
Texts of seven-bit characters. Each of their characters is one byte, and the bytes are read
back as the characters; where there is no carriage return, so are the line breaks.
-/

set_option autoImplicit false

namespace DocumentRules.Text

/-- A seven-bit character that begins no line break of more than one character. -/
def isPlain (c : Char) : Bool := c.toNat < 128 && c != '\r'

theorem byte_of_plain {c : Char} (plain : isPlain c = true) :
    (UInt8.ofNat c.toNat).toNat = c.toNat ∧ lead? c.toNat = some ⟨0, c.toNat, 0, 0⟩ := by
  simp only [isPlain, Bool.and_eq_true, decide_eq_true_eq] at plain
  refine ⟨?_, if_pos plain.1⟩
  rw [UInt8.toNat_ofNat']
  omega

theorem decode_plain {word : List Char} (plain : word.all isPlain = true) (position : Nat) :
    decodeFrom position none (word.map fun c => UInt8.ofNat c.toNat) = .ok word := by
  induction word generalizing position with
  | nil => rfl
  | cons c rest induction =>
      obtain ⟨own, others⟩ := Bool.and_eq_true_iff.mp plain
      obtain ⟨byte, lead⟩ := byte_of_plain own
      rw [List.map_cons, decodeFrom]
      simp only [byte, lead, beq_self_eq_true, if_true, induction others, Except.map,
        Char.ofNat_toNat]

theorem line_breaks_plain {word : List Char} (plain : word.all isPlain = true) :
    plainLineBreaks word = word := by
  induction word with
  | nil => rfl
  | cons c rest induction =>
      obtain ⟨own, others⟩ := Bool.and_eq_true_iff.mp plain
      have noReturn : c ≠ '\r' := by
        rintro rfl
        cases own
      rw [plainLineBreaks, induction others]
      all_goals
        intros
        contradiction

/-- A file that was written with one byte for each character is read back. -/
theorem file_text_plain {text : String} (plain : text.toList.all isPlain = true) :
    fileText (Bundle.plainBytes text) = .ok text := by
  rw [fileText, decodeUtf8, Bundle.plainBytes, decode_plain plain, Except.map,
    line_breaks_plain plain, String.ofList_toList]

end DocumentRules.Text
