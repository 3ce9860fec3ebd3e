import DocumentRules.Proofs.Validator.Violations

/-!
How the bundled and the core predicates break down. None of them reports a failure of its
own: what ends their calls is the number or the kind of their arguments, a subject they are
not meant for, or a pattern that cannot be read.
-/

set_option autoImplicit false

namespace DocumentRules

/-- Not a failure that a predicate reported. -/
def Breakdown.IsPlain : Breakdown → Prop
  | .failed _ => False
  | _ => True

namespace Predicate

open Text Format

section Settles

variable {α : Type}

/-- An attempt that breaks down plainly if it does. -/
def Settles (outcome : Except Breakdown α) : Prop :=
  ∀ cause, outcome = .error cause → cause.IsPlain

theorem settles_ok (value : α) : Settles (.ok value) := by
  intro cause impossible
  cases impossible

theorem settles_error {cause : Breakdown} (plain : cause.IsPlain) :
    Settles (.error cause : Except Breakdown α) := by
  intro own same
  cases same
  exact plain

theorem settles_bind {β : Type} {first : Except Breakdown α} {next : α → Except Breakdown β}
    (settled : Settles first) (later : ∀ value, Settles (next value)) :
    Settles (first >>= next) := by
  cases first with
  | error cause =>
      apply settles_error
      exact settled cause rfl
  | ok value => exact later value

end Settles

/-! ## The tests -/

variable (subject : Value) (arguments : List Value)

theorem reaches_settles (length : Nat) (bound : Value) : Settles (reaches length bound) := by
  unfold reaches
  split
  · exact settles_error trivial
  · exact settles_ok _

theorem stays_below_settles (length : Nat) (bound : Value) :
    Settles (staysBelow length bound) := by
  unfold staysBelow
  split
  · exact settles_error trivial
  · exact settles_ok _

theorem lies_between_settles (length : Nat) (low high : Value) :
    Settles (liesBetween length low high) := by
  apply settles_bind (reaches_settles length low)
  intro reached
  split
  · split
    · exact settles_ok true
    · exact stays_below_settles length _
  · exact settles_ok false

theorem flag_letters_settle (flags : Value) : Settles (flagLetters flags) := by
  unfold flagLetters
  split
  · exact settles_ok _
  · split
    · exact settles_ok _
    · exact settles_ok _
    · split
      · exact settles_ok _
      · exact settles_error trivial
    · exact settles_error trivial

theorem compiled_settles (pattern flags : Value) : Settles (compiled pattern flags) := by
  apply settles_bind (flag_letters_settle flags)
  intro letters
  split
  · split
    · exact settles_ok _
    · exact settles_error trivial
  · exact settles_error trivial

theorem search_settles (pattern flags : Value) : Settles (searchTest subject pattern flags) := by
  apply settles_bind (compiled_settles pattern flags)
  intro node
  split
  · exact settles_ok _
  · exact settles_error trivial

theorem equals_settles : Settles (equalsTest subject arguments) := by
  unfold equalsTest
  split
  · exact settles_ok _
  · exact settles_error trivial

theorem contains_settles : Settles (containsTest subject arguments) := by
  unfold containsTest
  split
  · split
    · split
      · exact settles_ok _
      · exact settles_ok _
      · exact settles_ok _
      · exact settles_error trivial
    · exact settles_error trivial
  · exact settles_error trivial

theorem matches_settles : Settles (matchesTest subject arguments) := by
  unfold matchesTest
  split
  · exact search_settles subject _ _
  · exact search_settles subject _ _
  · exact settles_error trivial

theorem avoids_settles : Settles (avoidsTest subject arguments) := by
  intro cause broken
  apply matches_settles subject arguments cause
  unfold avoidsTest at broken
  cases verdict : matchesTest subject arguments with
  | error own =>
      rw [verdict] at broken
      exact broken
  | ok found =>
      rw [verdict] at broken
      cases broken

theorem length_settles : Settles (lengthTest subject arguments) := by
  unfold lengthTest
  split
  · exact settles_error trivial
  · split
    · exact settles_error trivial
    · exact lies_between_settles _ _ _

theorem text_test_settles (otherwise : Breakdown) (plain : otherwise.IsPlain)
    (test : List Char → Bool) : Settles (textTest otherwise test subject arguments) := by
  unfold textTest
  split
  · split
    · exact settles_ok _
    · exact settles_error plain
  · exact settles_error trivial

theorem text_only_settles (test : List Char → Bool) :
    Settles (textOnlyTest test subject arguments) := by
  unfold textOnlyTest
  split
  · split
    · exact settles_ok _
    · exact settles_ok false
  · exact settles_error trivial

theorem mail_settles : Settles (mailTest subject arguments) := by
  unfold mailTest
  split
  · split
    · exact settles_ok false
    · exact text_test_settles subject [] .unsuitableKind trivial _
  · exact text_test_settles subject _ .unsuitableKind trivial _

theorem uuid_settles : Settles (uuidTest subject arguments) := by
  unfold uuidTest
  split
  · exact text_test_settles _ arguments .unsuitableKind trivial _
  · exact text_test_settles subject arguments .lackingOperation trivial _

theorem among_settles : Settles (amongTest subject arguments) := by
  unfold amongTest
  split
  · exact settles_ok _
  · exact settles_error trivial

theorem allowed_keys_settle : Settles (allowedKeysTest subject arguments) := by
  unfold allowedKeysTest
  split
  · split
    · exact settles_ok _
    · exact settles_error trivial
  · exact settles_ok false

theorem size_settles : Settles (sizeTest subject arguments) := by
  have between (low high : Value) : Settles (sizeTest.between subject low high) := by
    unfold sizeTest.between
    split
    · exact lies_between_settles _ low high
    · exact settles_ok false
  unfold sizeTest
  split
  · exact between _ _
  · exact between _ _
  · exact settles_error trivial

theorem is_text_settles : Settles (isTextTest subject arguments) := by
  unfold isTextTest
  split
  · split
    · exact settles_ok true
    · exact settles_ok false
  · exact settles_error trivial

/-! ## The predicates -/

/-- The predicate is a test that settles, whatever it is asked. -/
def IsSettled (predicate : Predicate) : Prop :=
  ∃ test : Value → List Value → Except Breakdown Bool,
    predicate = ofTest test ∧ ∀ subject arguments, Settles (test subject arguments)

theorem text_predicates_settled : ∀ entry ∈ textPredicates, IsSettled entry.2 := by
  simp only [textPredicates, List.forall_mem_cons, List.not_mem_nil, false_implies, implies_true,
    and_true]
  have asText (test : List Char → Bool) : IsSettled (ofTest (textTest .unsuitableKind test)) :=
    ⟨_, rfl, fun subject arguments =>
      text_test_settles subject arguments .unsuitableKind trivial test⟩
  have asOperation (test : List Char → Bool) :
      IsSettled (ofTest (textTest .lackingOperation test)) :=
    ⟨_, rfl, fun subject arguments =>
      text_test_settles subject arguments .lackingOperation trivial test⟩
  have asTextOnly (test : List Char → Bool) : IsSettled (ofTest (textOnlyTest test)) :=
    ⟨_, rfl, fun subject arguments => text_only_settles subject arguments test⟩
  exact ⟨⟨_, rfl, equals_settles⟩, ⟨_, rfl, contains_settles⟩, ⟨_, rfl, matches_settles⟩,
    ⟨_, rfl, matches_settles⟩, ⟨_, rfl, avoids_settles⟩, ⟨_, rfl, length_settles⟩,
    ⟨_, rfl, mail_settles⟩, asText _, ⟨_, rfl, uuid_settles⟩, asTextOnly _, asTextOnly _,
    asTextOnly _, asText _, asText _, asText _, asText _, asText _, asOperation _, asOperation _,
    ⟨_, rfl, among_settles⟩, asTextOnly _⟩

theorem core_predicates_settled : ∀ entry ∈ corePredicates, IsSettled entry.2 := by
  simp only [corePredicates, List.forall_mem_cons, List.not_mem_nil, false_implies, implies_true,
    and_true]
  exact ⟨⟨_, rfl, allowed_keys_settle⟩, ⟨_, rfl, size_settles⟩, ⟨_, rfl, is_text_settles⟩⟩

end Predicate

namespace Registry

theorem of_entries_settled (named : List (String × Predicate)) (textual : Bool)
    (settled : ∀ entry ∈ named, Predicate.IsSettled entry.2) :
    ∀ entry ∈ (ofEntries
        (named.map fun (name, predicate) => ⟨name, predicate, textual⟩)).entries,
      Predicate.IsSettled entry.predicate := by
  intro entry member
  obtain ⟨own, inside, same⟩ := List.mem_map.mp (mem_of_entries member)
  rw [← same]
  exact settled own inside

/-- Every predicate that a schema can name without a registry settles. -/
theorem resolved_settled {name : String} {entry : RegistryEntry}
    (known : resolve? ⟨some .bundled, .core⟩ name = some entry) :
    Predicate.IsSettled entry.predicate := by
  rcases resolve_some known with own | inCore
  · exact of_entries_settled _ true Predicate.text_predicates_settled entry (mem_of_find own)
  · exact of_entries_settled _ false Predicate.core_predicates_settled entry inCore

end Registry

end DocumentRules
