import DocumentRules.Format.Line

/-!
Lines and the characters they are made of. A text is its line, or its line and one line feed.
A form that is looked for in the line, and whose lines hold no line feed, is had by a text with
a line feed only when it is a line of that form and the line feed at its end.
-/

set_option autoImplicit false

namespace DocumentRules.Format

open DocumentRules.Text

/-! ## Letters and digits -/

theorem latin_digit_iff (c : Char) : isLatinDigit c = true ↔ c.isDigit = true := by
  simp [isLatinDigit, isPlainDigit, Char.isDigit_iff_toNat]

theorem latin_letter_iff (c : Char) : isLatinLetter c = true ↔ c.isAlpha = true := by
  delta Char.isAlpha Char.isUpper Char.isLower
  simp only [isLatinLetter, isPlainLetter, Bool.or_eq_true, Bool.and_eq_true, decide_eq_true_eq,
    UInt32.le_iff_toNat_le, ge_iff_le]
  exact Iff.rfl

theorem latin_alphanumeric_iff (c : Char) : isLatinAlphanumeric c = true ↔ c.isAlphanum = true := by
  delta Char.isAlphanum
  rw [isLatinAlphanumeric, Bool.or_eq_true, Bool.or_eq_true, latin_letter_iff, latin_digit_iff]

theorem any_digit_of_latin {c : Char} (latin : isLatinDigit c = true) : isAnyDigit c = true := by
  have bounds : 48 ≤ c.toNat ∧ c.toNat ≤ 57 := by simpa [isLatinDigit, isPlainDigit] using latin
  have basic : c.toNat < 128 := by omega
  simp [isAnyDigit, isDigit, basic, bounds]

theorem ne_of_refused {inside : Char → Bool} {c other : Char} (passes : inside c = true)
    (refused : inside other = false) : c ≠ other := by
  intro same
  rw [same, refused] at passes
  cases passes

/-- A character that a test refuses is not in a text whose characters all pass it. -/
theorem not_mem_of_refused {inside : Char → Bool} {text : List Char} {c : Char}
    (all : ∀ d ∈ text, inside d = true) (refused : inside c = false) : c ∉ text := by
  intro member
  exact ne_of_refused (all c member) refused rfl

/-! ## Lines -/

/-- A text whose last character is no line feed is a line already. -/
theorem line_of_no_feed {text : List Char} (clean : '\n' ∉ text) : lineOf text = text := by
  have last : text.getLast? ≠ some '\n' := by
    intro feed
    exact clean (List.mem_of_getLast? feed)
  rw [lineOf, if_neg last]

theorem line_of_feed (line : List Char) : lineOf (line ++ ['\n']) = line := by
  simp [lineOf]

theorem line_cases (text : List Char) : text = lineOf text ∨ text = lineOf text ++ ['\n'] := by
  by_cases last : text.getLast? = some '\n'
  · right
    obtain ⟨line, ended⟩ := List.getLast?_eq_some_iff.mp last
    rw [ended, line_of_feed]
  · left
    rw [lineOf, if_neg last]

/-- Where lines of a form hold no line feed, the texts of that form with a line feed are these
lines with a line feed behind them. -/
theorem feed_behind_line {form : List Char → Prop} (clean : ∀ line, form line → '\n' ∉ line)
    (text : List Char) :
    form (lineOf text) ∧ '\n' ∈ text ↔ ∃ line, text = line ++ ['\n'] ∧ '\n' ∉ line ∧ form line := by
  constructor
  · intro both
    have without := clean _ both.1
    rcases line_cases text with whole | ended
    · rw [← whole] at without
      exact absurd both.2 without
    · exact ⟨lineOf text, ended, without, both.1⟩
  · intro parts
    obtain ⟨line, ended, _, formed⟩ := parts
    rw [ended, line_of_feed]
    exact ⟨formed, List.mem_append_right line (List.mem_singleton_self '\n')⟩

end DocumentRules.Format
