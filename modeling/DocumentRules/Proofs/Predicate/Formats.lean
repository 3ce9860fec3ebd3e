import DocumentRules.Predicate.Named
import DocumentRules.Proofs.Format.Locations
import DocumentRules.Proofs.Format.Numerals

/-!
The predicates for formats of one line: three forms of a number, letters, letters and digits,
mail addresses and web addresses. Each of them judges the line of a text, so that a line feed at
the end passes with it, and no other line feed does. The forms of a number are nested, and what
is a mail address is said by its parts.
-/

set_option autoImplicit false

namespace DocumentRules

open Format Predicate

/-! ## Texts and their predicates -/

/-- The bundled predicate of this name lets a text pass. -/
def Accepts (name written : String) : Prop :=
  ∃ predicate, textPredicates.lookup name = some predicate ∧
    predicate.answer (.text written) [] = .verdict true

theorem accepts_test_iff {name : String} {test : Value → List Value → Except Breakdown Bool}
    (listed : textPredicates.lookup name = some (ofTest test)) (written : String) :
    Accepts name written ↔ test (.text written) [] = .ok true := by
  rw [Accepts, listed]
  simp only [Option.some.injEq, exists_eq_left', ofTest]
  cases test (.text written) [] <;> simp [Answer.ofTest]

theorem accepts_form_iff {name : String} {otherwise : Breakdown} {form : List Char → Bool}
    (listed : textPredicates.lookup name = some (ofTest (textTest otherwise form)))
    (written : String) : Accepts name written ↔ form written.toList = true := by
  rw [accepts_test_iff listed, textTest, Except.ok.injEq]

/-- The length of an address is looked at twice, with the same result. -/
theorem accepts_mail_iff (written : String) :
    Accepts "isEmail" written ↔ isMailAddress written.toList = true := by
  have listed : textPredicates.lookup "isEmail" = some (ofTest mailTest) := rfl
  rw [accepts_test_iff listed]
  by_cases long : 254 < written.length
  · have refused : isMailAddress written.toList = false := by
      have tooLong : ¬written.toList.length ≤ 254 := Nat.not_le.mpr long
      simp [isMailAddress, tooLong]
    simp [mailTest, size?, long, refused]
  · simp only [mailTest, size?, if_neg long, textTest, Except.ok.injEq]

/-- A format that a line has as a whole. -/
inductive LineFormat where
  | wholeNumber
  | numeral
  | decimal
  | letters
  | alphanumeric
  | mailAddress
  | webAddress

namespace LineFormat

/-- The name of its predicate. -/
def name : LineFormat → String
  | wholeNumber => "isInt"
  | numeral => "isNumeric"
  | decimal => "isFloat"
  | letters => "isAlpha"
  | alphanumeric => "isAlphanumeric"
  | mailAddress => "isEmail"
  | webAddress => "isURL"

def hasForm : LineFormat → List Char → Bool
  | wholeNumber, line => isWholeBody (unsigned line)
  | numeral, line => isNumeralBody false (unsigned line)
  | decimal, line => isDecimalBody false (unsigned line)
  | letters, line => isRun isLatinLetter line
  | alphanumeric, line => isRun isLatinAlphanumeric line
  | mailAddress, line => isMailLine line
  | webAddress, line => isWebLine line

/-- Only mail addresses have a greatest length, in which a line feed counts. -/
def Fits : LineFormat → Nat → Prop
  | mailAddress, length => length ≤ 254
  | _, _ => True

instance (format : LineFormat) (length : Nat) : Decidable (format.Fits length) :=
  match format with
  | mailAddress => inferInstanceAs (Decidable (length ≤ 254))
  | wholeNumber | numeral | decimal | letters | alphanumeric | webAddress => isTrue trivial

theorem Fits.shorter {format : LineFormat} {length other : Nat} (fits : format.Fits length)
    (less : other ≤ length) : format.Fits other := by
  cases format with
  | mailAddress => exact less.trans fits
  | _ => trivial

theorem accepts_iff (format : LineFormat) (written : String) :
    Accepts format.name written ↔
      format.Fits written.length ∧ format.hasForm (lineOf written.toList) = true := by
  cases format with
  | mailAddress =>
      exact (accepts_mail_iff written).trans (mail_address_line written.toList)
  | webAddress =>
      have listed : textPredicates.lookup "isURL" =
        some (ofTest (textTest .unsuitableKind isWebAddress)) := rfl
      rw [name, accepts_form_iff listed, web_address_line]
      exact (iff_of_eq (true_and _)).symm
  | wholeNumber => exact (accepts_form_iff rfl written).trans (iff_of_eq (true_and _)).symm
  | numeral => exact (accepts_form_iff rfl written).trans (iff_of_eq (true_and _)).symm
  | decimal => exact (accepts_form_iff rfl written).trans (iff_of_eq (true_and _)).symm
  | letters => exact (accepts_form_iff rfl written).trans (iff_of_eq (true_and _)).symm
  | alphanumeric => exact (accepts_form_iff rfl written).trans (iff_of_eq (true_and _)).symm

theorem form_not_feed (format : LineFormat) (line : List Char)
    (formed : format.hasForm line = true) : '\n' ∉ line := by
  have ofBody {anyDigit : Bool} (decimal : isDecimalBody anyDigit (unsigned line) = true) :
      '\n' ∉ line := by
    rw [← mem_unsigned_iff (by decide) (by decide)]
    exact decimal_not_feed decimal
  have ofRun {inside : Char → Bool} (run : isRun inside line = true)
      (refused : inside '\n' = false) : '\n' ∉ line := by
    rw [isRun, Bool.and_eq_true, List.all_eq_true] at run
    exact not_mem_of_refused run.2 refused
  cases format with
  | wholeNumber =>
      have numeral := ((whole_body_iff _).mp formed).1
      exact ofBody ((numeral_body_iff _ _).mp numeral).1
  | numeral => exact ofBody ((numeral_body_iff _ _).mp formed).1
  | decimal => exact ofBody formed
  | letters => exact ofRun formed (by decide)
  | alphanumeric => exact ofRun formed (by decide)
  | mailAddress => exact ((is_mail_line_iff line).mp formed).not_feed
  | webAddress => exact web_line_not_feed formed

end LineFormat

/-! ## Line feeds -/

/-- A text with a line feed passes exactly when it is a text without one that passes, and the line
feed behind it, which must not make an address too long. -/
theorem line_feed_only_behind_line (format : LineFormat) (written : String) :
    Accepts format.name written ∧ '\n' ∈ written.toList ↔
      ∃ line : String, written = line ++ "\n" ∧ '\n' ∉ line.toList ∧ Accepts format.name line ∧
        format.Fits written.length := by
  have behind := feed_behind_line format.form_not_feed written.toList
  rw [format.accepts_iff]
  constructor
  · intro accepted
    obtain ⟨line, ended, clean, formed⟩ := behind.mp ⟨accepted.1.2, accepted.2⟩
    have whole : written = String.ofList line ++ "\n" := by
      rw [← String.ofList_toList (s := written), ended, String.ofList_append]
    have less : (String.ofList line).length ≤ written.length := by
      rw [whole, String.length_append]
      exact Nat.le_add_right _ _
    refine ⟨String.ofList line, whole, ?_, ?_, accepted.1.1⟩
    · rwa [String.toList_ofList]
    · rw [format.accepts_iff, String.toList_ofList, line_of_no_feed clean]
      exact ⟨accepted.1.1.shorter less, formed⟩
  · intro parts
    obtain ⟨line, ended, clean, accepted, fits⟩ := parts
    rw [format.accepts_iff, line_of_no_feed clean] at accepted
    have split : written.toList = line.toList ++ ['\n'] := by
      rw [ended, String.toList_append]
      rfl
    have formed := behind.mpr ⟨line.toList, split, clean, accepted.2⟩
    exact ⟨⟨fits, formed.1⟩, formed.2⟩

/-- Each of the seven predicates lets a text pass that holds a line feed. -/
theorem line_feeds_accepted :
    (Accepts "isInt" "12\n" ∧ '\n' ∈ "12\n".toList) ∧
      (Accepts "isNumeric" "1.5\n" ∧ '\n' ∈ "1.5\n".toList) ∧
      (Accepts "isFloat" "1e5\n" ∧ '\n' ∈ "1e5\n".toList) ∧
      (Accepts "isAlpha" "wren\n" ∧ '\n' ∈ "wren\n".toList) ∧
      (Accepts "isAlphanumeric" "Wren7\n" ∧ '\n' ∈ "Wren7\n".toList) ∧
      (Accepts "isEmail" "wren@birds.org\n" ∧ '\n' ∈ "wren@birds.org\n".toList) ∧
      Accepts "isURL" "https://birds.org/wren\n" ∧ '\n' ∈ "https://birds.org/wren\n".toList := by
  refine ⟨⟨?_, by decide⟩, ⟨?_, by decide⟩, ⟨?_, by decide⟩,
    ⟨?_, by decide⟩, ⟨?_, by decide⟩, ⟨?_, by decide⟩,
    ?_, by decide⟩
  · exact (LineFormat.wholeNumber.accepts_iff _).mpr (by decide)
  · exact (LineFormat.numeral.accepts_iff _).mpr (by decide)
  · exact (LineFormat.decimal.accepts_iff _).mpr (by decide)
  · exact (LineFormat.letters.accepts_iff _).mpr (by decide)
  · exact (LineFormat.alphanumeric.accepts_iff _).mpr (by decide)
  · exact (LineFormat.mailAddress.accepts_iff _).mpr (by decide)
  · exact (LineFormat.webAddress.accepts_iff _).mpr (by decide)

/-! ## Mail addresses -/

/-- A single line is accepted as a mail address when it is not too long and is one. -/
theorem mail_addresses_recognised (written : String) (line : '\n' ∉ written.toList) :
    Accepts "isEmail" written ↔ written.length ≤ 254 ∧ IsMailAddress written.toList := by
  rw [accepts_mail_iff, mail_address_line, line_of_no_feed line, is_mail_line_iff]
  rfl

theorem wren_address_recognised :
    '\n' ∉ "wren@birds.org".toList ∧
      "wren@birds.org".length ≤ 254 ∧ IsMailAddress "wren@birds.org".toList := by
  have line : '\n' ∉ "wren@birds.org".toList := by decide
  have accepted : Accepts "isEmail" "wren@birds.org" :=
    (accepts_mail_iff _).mpr (by decide)
  exact ⟨line, (mail_addresses_recognised "wren@birds.org" line).mp accepted⟩

/-! ## Numbers -/

/-- Whole numbers are the numerals without a point that do not begin with a zero, and numerals the
decimals without an exponent that do not end in their point. -/
theorem number_forms_nested (written : String) :
    (Accepts "isInt" written ↔
        Accepts "isNumeric" written ∧ IsUnbroken (bodyOf written.toList)) ∧
      (Accepts "isNumeric" written ↔
        Accepts "isFloat" written ∧ IsUnscaled (bodyOf written.toList)) := by
  have whole : Accepts "isInt" written ↔ isWholeNumber written.toList = true :=
    accepts_form_iff rfl written
  have numeral : Accepts "isNumeric" written ↔ isNumeral written.toList = true :=
    accepts_form_iff rfl written
  have decimal : Accepts "isFloat" written ↔ isDecimal written.toList = true :=
    accepts_form_iff rfl written
  rw [whole, numeral, decimal]
  exact ⟨whole_number_iff written.toList, numeral_iff written.toList⟩

end DocumentRules
