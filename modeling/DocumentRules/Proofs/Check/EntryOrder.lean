import DocumentRules.Proofs.Check.Likeness
import DocumentRules.Proofs.Value.Keyed

/-!
The order of the entries in a mapping does not matter. What is found under a key is the same in
every order, and so the order is no more than a likeness. It shows in the text of a mapping, and
a predicate of the author's own may look at it; the core predicates do not.
-/

set_option autoImplicit false

namespace DocumentRules

namespace Datum

/-- The same key, and under it something that is related. -/
inductive EntryLike (like : Value → Value → Prop) : String × Value → String × Value → Prop
  | under (key : String) {item fellow : Value} (items : like item fellow) :
      EntryLike like (key, item) (key, fellow)

/-- The same value up to the order of the entries in mappings, at every depth. -/
inductive Reordered : Value → Value → Prop
  | plain {value : Value} (plain : value.isContainer = false) : Reordered value value
  | list {items others : List Value} (each : List.Forall₂ Reordered items others) :
      Reordered (.list items) (.list others)
  | mapping {entries middle others : List (String × Value)}
      (each : List.Forall₂ (EntryLike Reordered) entries middle) (perm : middle.Perm others) :
      Reordered (.mapping entries) (.mapping others)

theorem same_keys {entries middle : List (String × Value)}
    (each : List.Forall₂ (EntryLike Reordered) entries middle) :
    entries.map Prod.fst = middle.map Prod.fst := by
  induction each with
  | nil => rfl
  | cons own _ induction =>
      cases own with
      | under key items => exact congrArg (List.cons key) induction

theorem all_keys_of_reordered {entries middle others : List (String × Value)}
    (each : List.Forall₂ (EntryLike Reordered) entries middle) (perm : middle.Perm others)
    (admits : String → Bool) :
    (entries.all fun entry => admits entry.1) = others.all fun entry => admits entry.1 := by
  have keys : (entries.map Prod.fst).Perm (others.map Prod.fst) := by
    rw [same_keys each]
    exact perm.map Prod.fst
  have same : (entries.map Prod.fst).all admits = (others.map Prod.fst).all admits := by
    rw [Bool.eq_iff_iff, List.all_eq_true, List.all_eq_true]
    exact forall_congr' fun key => imp_congr_left keys.mem_iff
  rwa [List.all_map, List.all_map] at same

theorem entry_of_perm {entries others : List (String × Value)}
    (distinct : (entries.map Prod.fst).Nodup) (perm : entries.Perm others) (name : String) :
    Datum.entry? name entries = Datum.entry? name others := by
  have distinctOther := (perm.map Prod.fst).nodup_iff.mp distinct
  apply Option.ext
  intro item
  rw [entry_iff_mem distinct, entry_iff_mem distinctOther]
  exact perm.mem_iff

theorem entry_of_same {entries middle : List (String × Value)}
    (each : List.Forall₂ (EntryLike Reordered) entries middle) (name : String) :
    ((Datum.entry? name entries).getD .null).Reordered ((Datum.entry? name middle).getD .null) := by
  induction each with
  | nil => exact .plain rfl
  | cons own _ induction =>
      cases own with
      | under key items =>
          rw [ entry?, entry?]
          split
          · exact items
          · exact induction

theorem element_of_same {items others : List Value} (each : List.Forall₂ Reordered items others)
    (position : Int) :
    ((element? items position).getD .null).Reordered ((element? others position).getD .null) := by
  rw [element?, element?]
  split
  · exact Run.related_at each (.plain rfl) position.toNat
  · exact .plain rfl

theorem Reordered.step {value other : Value} (keyed : value.IsKeyed)
    (reordered : value.Reordered other) (segment : Segment) :
    (value.step segment).Reordered (other.step segment) := by
  cases reordered with
  | plain plain =>
      rw [step_of_plain plain]
      exact .plain rfl
  | list each =>
      rw [Datum.step, Datum.step]
      cases segment.position? with
      | none => exact .plain rfl
      | some position => exact element_of_same each position
  | mapping each perm =>
      rw [Datum.step, Datum.step]
      cases segment.name? with
      | none => exact .plain rfl
      | some name =>
          have distinct := same_keys each ▸ ((mapping_keyed_iff _).mp keyed).1
          rw [Option.bind_some, Option.bind_some, ← entry_of_perm distinct perm]
          exact entry_of_same each name

theorem reordered_likeness :
    Likeness fun value other => value.IsKeyed ∧ value.Reordered other := by
  constructor
  · rintro value other ⟨_, reordered⟩
    cases reordered with
    | plain plain => exact .plain plain
    | list each => exact .list each.length_eq
    | mapping each perm => exact .mapping _ _
  · rintro value other ⟨keyed, reordered⟩ segment
    exact ⟨keyed.step segment, reordered.step keyed segment⟩

end Datum

/-! ## Predicates -/

/-- The predicate answers the same whatever the order of entries. -/
def Predicate.IgnoresOrder (predicate : Predicate) : Prop :=
  ∀ value other arguments, Datum.Reordered value other →
    predicate.answer value arguments = predicate.answer other arguments

namespace Predicate

theorem of_test_ignores_order {test : Value → List Value → Except Breakdown Bool}
    (same : ∀ value other arguments, Datum.Reordered value other →
      test value arguments = test other arguments) : (ofTest test).IgnoresOrder := by
  intro value other arguments reordered
  exact congrArg Answer.ofTest (same value other arguments reordered)

theorem allowed_keys_of_reordered {value other : Value} (reordered : value.Reordered other)
    (arguments : List Value) :
    allowedKeysTest value arguments = allowedKeysTest other arguments := by
  cases reordered with
  | plain plain => rfl
  | list each => rfl
  | mapping each perm =>
      have same := Datum.all_keys_of_reordered each perm fun key =>
        arguments.any fun admitted => (Datum.text key).equals admitted
      rw [allowedKeysTest, allowedKeysTest, same]

theorem size_of_reordered {value other : Value} (reordered : value.Reordered other)
    (arguments : List Value) : sizeTest value arguments = sizeTest other arguments := by
  cases reordered with
  | plain plain => rfl
  | list each => simp only [sizeTest, sizeTest.between, each.length_eq]
  | mapping each perm => rfl

theorem is_text_of_reordered {value other : Value} (reordered : value.Reordered other)
    (arguments : List Value) : isTextTest value arguments = isTextTest other arguments := by
  cases reordered with
  | plain plain => rfl
  | list each => rfl
  | mapping each perm => rfl

end Predicate

theorem Registry.core_ignores_order :
    ∀ entry ∈ Registry.core.entries, entry.predicate.IgnoresOrder := by
  intro entry member
  obtain ⟨own, inside, rfl⟩ := List.mem_map.mp (Registry.mem_of_entries member)
  simp only [Predicate.corePredicates, List.mem_cons, List.not_mem_nil, or_false] at inside
  rcases inside with rfl | rfl | rfl
  · exact Predicate.of_test_ignores_order fun _ _ arguments reordered =>
      Predicate.allowed_keys_of_reordered reordered arguments
  · exact Predicate.of_test_ignores_order fun _ _ arguments reordered =>
      Predicate.size_of_reordered reordered arguments
  · exact Predicate.of_test_ignores_order fun _ _ arguments reordered =>
      Predicate.is_text_of_reordered reordered arguments

/-- Every predicate that is registered for values as they are is one of the core. -/
def Registry.OthersAreCore (registry : Registry) : Prop :=
  ∀ entry ∈ registry.entries, entry.textual = false →
    ∃ own ∈ Registry.core.entries, entry.predicate = own.predicate

theorem Registry.bundled_others_core : Registry.bundled.OthersAreCore := by
  intro entry member raw
  obtain ⟨own, _, rfl⟩ := List.mem_map.mp (Registry.mem_of_entries member)
  cases raw

namespace Registry

theorem StandsFor.ignores_order {registry : Registry} (others : registry.OthersAreCore)
    {name : String} {entry : RegistryEntry} (stands : StandsFor ⟨some registry, .core⟩ name entry)
    (raw : entry.textual = false) : entry.predicate.IgnoresOrder := by
  cases stands with
  | registered given found =>
      cases given
      obtain ⟨own, inCore, same⟩ := others entry (mem_of_find found) raw
      rw [same]
      exact core_ignores_order own inCore
  | core absent found => exact core_ignores_order entry (mem_of_find found)

end Registry

theorem Validator.IsMade.answer_of_reordered {registry : Registry}
    (others : registry.OthersAreCore) {name : String} {given : Declaration} {validator : Validator}
    (made : IsMade ⟨some registry, .core⟩ name given validator) (raw : validator.textual = false)
    (named : validator.form ≠ .adHoc) {value other : Value} (reordered : value.Reordered other) :
    validator.answerFor value = validator.answerFor other := by
  rw [answerFor, answerFor, canAsk, canAsk, subjectOf, subjectOf, raw]
  refine congrArg some ?_
  cases made with
  | adHoc unknown => exact absurd rfl named
  | bare known => exact known.ignores_order others raw value other _ reordered
  | several known => exact known.ignores_order others raw value other _ reordered
  | single known _ _ => exact known.ignores_order others raw value other _ reordered

/-- Where containers are only shown to the core predicates, the order of the entries in a value
does not matter: in another order its check ends in the same fault or reports the same. -/
theorem check_of_reordered {value other : Value} (keyed : value.IsKeyed)
    (reordered : value.Reordered other) (source : SchemaSource) (registry : Option Registry)
    (place : Path) (others : (registry.getD .bundled).OthersAreCore)
    (core : ∀ check validator, Applies value source registry place check →
      check.rule.Calls (knownTo registry) check.target validator →
      check.target.isContainer = true → validator.textual = false ∧ validator.form ≠ .adHoc) :
    (check value source registry place).outcome.map (List.map Violation.headline) =
      (check other source registry place).outcome.map (List.map Violation.headline) := by
  apply check_like Datum.reordered_likeness ⟨keyed, reordered⟩
  intro check validator twin applies container calls like
  obtain ⟨entry, _, made⟩ := calls.made
  obtain ⟨raw, named⟩ := core check validator applies calls container
  exact made.answer_of_reordered others raw named like.2

def jar (label : String) : String × Value := ("label", .text label)

def pantry : Value :=
  .mapping
    [("jars", .list
        [.mapping [jar "plum", ("weight", .integer 4)],
          .mapping [jar "fig", ("lid", .text "red")]]),
      ("owner", .mapping [("name", .text "Ann"), ("age", .integer 30)])]

/-- The same pantry, with the entries of all mappings in another order. -/
def tidiedPantry : Value :=
  .mapping
    [("owner", .mapping [("age", .integer 30), ("name", .text "Ann")]),
      ("jars", .list
        [.mapping [("weight", .integer 4), jar "plum"],
          .mapping [("lid", .text "red"), jar "fig"]])]

/-- A predicate of the core has a second name here. -/
def pantryRegistry : Registry :=
  Registry.bundled.insert ⟨"onlyKeys", .ofTest Predicate.allowedKeysTest, false⟩

def pantryRules : SchemaSource :=
  .declared (.mapping
    [("$", .mapping
        [("validate", .mapping [("allowedKeys", .list [.text "jars", .text "owner"])])]),
      ("jars", .mapping
        [("type", .text "array"), ("validate", .mapping [("size", .integer 3)]),
          ("schema", .mapping
            [("$", .mapping
                [("validate", .mapping [("onlyKeys", .list [.text "label", .text "weight"])])]),
              ("label", .mapping [("validate", .mapping [("equals", .text "plum")])])])]),
      ("owner", .mapping
        [("type", .text "object"), ("validate", .mapping [("isString", .bool true)]),
          ("schema", .mapping [("age", .mapping [("type", .text "string")])])])])

theorem pantry_keyed : pantry.IsKeyed := by
  simp [pantry, jar]

theorem pantry_reordered : pantry.Reordered tidiedPantry := by
  have swapped (own other : String × Value) (plain : own.2.isContainer = false)
      (plainOther : other.2.isContainer = false) :
      Datum.Reordered (.mapping [own, other]) (.mapping [other, own]) :=
    .mapping (.cons (.under own.1 (.plain plain)) (.cons (.under other.1 (.plain plainOther)) .nil))
      (.swap _ _ [])
  have jars : Datum.Reordered
      (.list [.mapping [jar "plum", ("weight", .integer 4)],
        .mapping [jar "fig", ("lid", .text "red")]])
      (.list [.mapping [("weight", .integer 4), jar "plum"],
        .mapping [("lid", .text "red"), jar "fig"]]) :=
    .list (.cons (swapped _ _ rfl rfl) (.cons (swapped _ _ rfl rfl) .nil))
  exact .mapping (.cons (.under "jars" jars) (.cons (.under "owner" (swapped _ _ rfl rfl)) .nil))
    (.swap _ _ [])

theorem pantry_others_core : pantryRegistry.OthersAreCore := by
  intro entry member raw
  rcases Registry.mem_insert member with rfl | inside
  · exact ⟨_, List.mem_cons_self, rfl⟩
  · exact Registry.bundled_others_core entry inside raw

/-- The step does not look at the text of a value and asks no predicate of the author's own. -/
def CheckStep.isCommon : CheckStep → Bool
  | .typeTest _ => true
  | .predicateCall validator => !validator.textual && validator.form != .adHoc

theorem pantry_checks_in_any_order :
    pantry.IsKeyed ∧ pantry.Reordered tidiedPantry ∧ pantryRegistry.OthersAreCore ∧
      (∀ check validator, Applies pantry pantryRules (some pantryRegistry) [] check →
        check.rule.Calls (knownTo (some pantryRegistry)) check.target validator →
        check.target.isContainer = true → validator.textual = false ∧ validator.form ≠ .adHoc) ∧
      ∃ found others,
        (check pantry pantryRules (some pantryRegistry) []).outcome = .ok found ∧
        (check tidiedPantry pantryRules (some pantryRegistry) []).outcome = .ok others ∧
        found.map (fun violation => (violation.path, violation.validator)) =
          [(.text "jars", .text "size"), (.text "owner.age", .text "type"),
            (.text "owner", .text "isString"), (.text "jars.1", .text "onlyKeys"),
            (.text "jars.1.label", .text "equals")] ∧
        found.map Violation.headline = others.map Violation.headline := by
  have core : ∀ check validator, Applies pantry pantryRules (some pantryRegistry) [] check →
      check.rule.Calls (knownTo (some pantryRegistry)) check.target validator →
      check.target.isContainer = true → validator.textual = false ∧ validator.form ≠ .adHoc := by
    intro check validator applies calls container
    obtain ⟨steps, made, inside⟩ := calls.inside
    have common := applies.passes rfl (fun check => !check.target.isContainer ||
      ((CheckStep.ofRule (knownTo (some pantryRegistry)) check.rule).toOption.getD []).all
        CheckStep.isCommon) rfl
    simp only [container, Bool.not_true, Bool.false_or] at common
    rw [made] at common
    have plain := List.all_eq_true.mp common _ inside
    simpa [CheckStep.isCommon] using plain
  have same := check_of_reordered pantry_keyed pantry_reordered pantryRules (some pantryRegistry) []
    pantry_others_core core
  refine ⟨pantry_keyed, pantry_reordered, pantry_others_core, core, _, _, rfl, rfl, rfl, ?_⟩
  exact Except.ok.inj same

end DocumentRules
