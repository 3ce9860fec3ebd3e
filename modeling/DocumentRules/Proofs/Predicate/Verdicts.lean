import DocumentRules.Proofs.Validator.Passing
import DocumentRules.Proofs.Value.Subjects

/-!
What the named predicates say when their arguments suit them. A predicate that is a test
passes or decides as its test does; the tests below come to a verdict for every subject,
and the verdict is said in terms of the subject alone.
-/

set_option autoImplicit false

namespace DocumentRules

namespace CheckStep

/-- A validator whose predicate is a test. -/
abbrev ofTest (name : String) (test : Value → List Value → Except Breakdown Bool)
    (form : ArgumentForm) (arguments : List Value) (textual : Bool) : CheckStep :=
  .predicateCall ⟨name, Predicate.ofTest test, form, arguments, textual⟩

variable {test : Value → List Value → Except Breakdown Bool} {name : String}
  {form : ArgumentForm} {arguments : List Value} {value : Value}

theorem answer_textual (writable : value.isWritable = true) :
    Validator.answerFor ⟨name, Predicate.ofTest test, form, arguments, true⟩ value =
      some (Answer.ofTest (test (.text value.subject) arguments)) := by
  simp [Validator.answerFor, Validator.canAsk, Validator.subjectOf, writable, Predicate.ofTest]

theorem answer_raw :
    Validator.answerFor ⟨name, Predicate.ofTest test, form, arguments, false⟩ value =
      some (Answer.ofTest (test value arguments)) := rfl

/-- A value that cannot be written passes no test of its text. -/
theorem passes_textual :
    (ofTest name test form arguments true).Passes value ↔
      value.isWritable = true ∧ test (.text value.subject) arguments = .ok true := by
  cases writable : value.isWritable with
  | true =>
      rw [Passes, answer_textual writable]
      cases test (.text value.subject) arguments <;> simp [Answer.ofTest]
  | false => simp [Passes, Validator.answerFor, Validator.canAsk, writable]

theorem passes_raw :
    (ofTest name test form arguments false).Passes value ↔ test value arguments = .ok true := by
  rw [Passes, answer_raw]
  cases test value arguments <;> simp [Answer.ofTest]

theorem decides_textual (writable : value.isWritable = true)
    (decided : ∃ passes, test (.text value.subject) arguments = .ok passes) :
    (ofTest name test form arguments true).Decides value := by
  obtain ⟨passes, verdict⟩ := decided
  exact ⟨passes, by rw [answer_textual writable, verdict]; rfl⟩

theorem decides_raw (decided : ∃ passes, test value arguments = .ok passes) :
    (ofTest name test form arguments false).Decides value := by
  obtain ⟨passes, verdict⟩ := decided
  exact ⟨passes, by rw [answer_raw, verdict]; rfl⟩

theorem passes_type (tag : TypeTag) :
    (typeTest (.text tag.name)).Passes value ↔ tag.admits value = true := by
  rw [Passes, TypeTag.test_by_name, Except.ok.injEq]

theorem decides_type (tag : TypeTag) : (typeTest (.text tag.name)).Decides value :=
  ⟨_, TypeTag.test_by_name tag value⟩

end CheckStep

namespace Predicate

open Text Format

theorem equals_texts (left right : String) :
    (Datum.text left : Value).equals (.text right) = decide (left = right) := by
  simp [Datum.equals, beq_eq_decide]

/-- The subject is one of the texts that are given. -/
theorem among_texts (subject : String) (options : List String) :
    amongTest (.text subject) (options.map .text) = .ok (decide (subject ∈ options)) := by
  have writable : (options.map (Datum.text : String → Value)).all Datum.isWritable = true := by
    simp [Datum.isWritable]
  simp only [amongTest, writable, if_true, List.any_map, Function.comp_def, Datum.display,
    equals_texts]
  simp [List.any_eq, eq_comm]

def hasOnlyKeys (keys : List String) : Value → Bool
  | .mapping entries => entries.all fun entry => decide (entry.1 ∈ keys)
  | _ => false

theorem allowed_keys (value : Value) (keys : List String) :
    allowedKeysTest value (keys.map .text) = .ok (hasOnlyKeys keys value) := by
  cases value with
  | mapping entries =>
      have hashable : (keys.map (Datum.text : String → Value)).all Datum.isHashable = true := by
        simp [Datum.isHashable]
      simp only [allowedKeysTest, hashable, if_true, hasOnlyKeys, List.any_map,
        Function.comp_def, equals_texts]
      simp [List.any_eq, eq_comm]
  | _ => rfl

theorem has_only_keys_iff (keys : List String) (value : Value) :
    hasOnlyKeys keys value = true ↔
      ∃ entries, value = .mapping entries ∧ ∀ entry ∈ entries, entry.1 ∈ keys := by
  cases value <;> simp [hasOnlyKeys]

theorem lies_between_integers (length : Nat) (low high : Int) :
    liesBetween length (.integer low) (.integer high) =
      .ok (decide (low ≤ length ∧ (length : Int) ≤ high)) := by
  have fromLow : (compare (length : Int) low != .lt) = decide (low ≤ (length : Int)) := by
    rw [Bool.eq_iff_iff]
    simp [Int.compare_eq_lt]
  have toHigh : (compare (length : Int) high != .gt) = decide ((length : Int) ≤ high) := by
    rw [Bool.eq_iff_iff]
    simp [Int.compare_eq_gt]
  have reached : reaches length (.integer low) = .ok (decide (low ≤ (length : Int))) := by
    simp only [reaches, Datum.numeral?, Numeral.compare?, fromLow]
  have below : staysBelow length (.integer high) = .ok (decide ((length : Int) ≤ high)) := by
    simp only [staysBelow, Datum.numeral?, Numeral.compare?, toHigh]
  by_cases enough : low ≤ (length : Int)
  · rw [decide_eq_true enough] at reached
    simp only [enough, true_and]
    rw [← below, liesBetween, reached]
    · rfl
    · intro impossible
      cases impossible
  · rw [decide_eq_false enough] at reached
    simp only [enough, false_and]
    rw [liesBetween, reached]
    · rfl
    · intro impossible
      cases impossible

/-- The number of characters of a text lies between two whole numbers. -/
theorem length_between (written : String) (low high : Int) :
    lengthTest (.text written) [.integer low, .integer high] =
      .ok (decide (low ≤ written.length ∧ (written.length : Int) ≤ high)) :=
  lies_between_integers written.length low high

def hasSize (low high : Int) : Value → Bool
  | .list items => decide (low ≤ items.length ∧ (items.length : Int) ≤ high)
  | _ => false

theorem size_between (value : Value) (low high : Int) :
    sizeTest value [.integer low, .integer high] = .ok (hasSize low high value) := by
  cases value with
  | list items => exact lies_between_integers items.length low high
  | _ => rfl

def isText : Value → Bool
  | .text _ => true
  | _ => false

theorem text_test (value : Value) : isTextTest value [] = .ok (isText value) := by
  cases value <;> rfl

theorem mail_decides (written : String) : ∃ passes, mailTest (.text written) [] = .ok passes := by
  by_cases long : 254 < written.length
  · exact ⟨false, by simp [mailTest, size?, long]⟩
  · exact ⟨_, by simp only [mailTest, size?, if_neg long, textTest]; rfl⟩

/-- A pattern that can be read comes to a verdict about every text. -/
theorem matches_decides (written : String) {pattern : Value} {node : Pattern.Node}
    (readable : compiled pattern .null = .ok node) :
    ∃ passes, matchesTest (.text written) [pattern] = .ok passes := by
  refine ⟨node.search written.toList, ?_⟩
  simp only [matchesTest, searchTest, readable]
  rfl

theorem matches_flagged_decides (written : String) {pattern flags : Value} {node : Pattern.Node}
    (readable : compiled pattern flags = .ok node) :
    ∃ passes, matchesTest (.text written) [pattern, flags] = .ok passes := by
  refine ⟨node.search written.toList, ?_⟩
  simp only [matchesTest, searchTest, readable]
  rfl

end Predicate

end DocumentRules
