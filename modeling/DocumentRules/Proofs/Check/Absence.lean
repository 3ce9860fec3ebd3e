import DocumentRules.Proofs.Check.Likeness
import DocumentRules.Proofs.Value.Keyed

/-!
Null and a missing entry are the same. A key under which null stands and a key that is missing
both lead to null, so leaving out the entries with null is a likeness. Items of a list stay, and
with them the length of the list, because positions count.
-/

set_option autoImplicit false

namespace DocumentRules

namespace Datum

mutual

/-- Leaves out the entries with null at every depth. -/
def prune : Value → Value
  | .list items => .list (pruneItems items)
  | .mapping entries => .mapping (pruneEntries entries)
  | other => other

/-- Every item is pruned and stays, null too. -/
def pruneItems : List Value → List Value
  | [] => []
  | item :: rest => item.prune :: pruneItems rest

def pruneEntries : List (String × Value) → List (String × Value)
  | [] => []
  | (key, item) :: rest =>
      if item.isNull then pruneEntries rest else (key, item.prune) :: pruneEntries rest

end

theorem prune_items (items : List Value) : pruneItems items = items.map prune := by
  induction items with
  | nil => rfl
  | cons item rest induction => rw [pruneItems, List.map_cons, induction]

theorem keys_of_pruned (entries : List (String × Value)) :
    ((pruneEntries entries).map Prod.fst).Sublist (entries.map Prod.fst) := by
  induction entries with
  | nil => exact .slnil
  | cons entry rest induction =>
      obtain ⟨key, item⟩ := entry
      rw [pruneEntries]
      split
      · exact induction.cons key
      · exact induction.cons_cons key

/-- A key leads to the same after pruning. An entry that is left out held null, and no other
entry of its key comes to light because keys do not repeat. -/
theorem entry_of_pruned {entries : List (String × Value)}
    (distinct : (entries.map Prod.fst).Nodup) (name : String) :
    (Datum.entry? name (pruneEntries entries)).getD .null =
      ((Datum.entry? name entries).getD .null).prune := by
  induction entries with
  | nil => rfl
  | cons entry rest induction =>
      obtain ⟨key, item⟩ := entry
      obtain ⟨fresh, distinctRest⟩ := List.nodup_cons.mp distinct
      rw [pruneEntries, entry?]
      by_cases own : key = name
      · rw [if_pos own]
        split
        · rename_i null
          have missing : entry? name (pruneEntries rest) = none := by
            apply (entry_none_iff name _).mpr
            intro inside
            exact fresh (own ▸ (keys_of_pruned rest).subset inside)
          rw [missing]
          cases item with
          | null => rfl
          | _ => cases null
        · rw [ entry?, if_pos own]
          rfl
      · rw [if_neg own, ← induction distinctRest]
        split
        · rfl
        · rw [ entry?, if_neg own]

theorem element_of_pruned (items : List Value) (position : Int) :
    element? (pruneItems items) position = (element? items position).map prune := by
  rw [prune_items, element?, element?]
  split
  · exact List.getElem?_map
  · rfl

theorem step_of_pruned {value : Value} (keyed : value.IsKeyed) (segment : Segment) :
    value.prune.step segment = (value.step segment).prune := by
  cases keyed with
  | plain plain =>
      cases value with
      | list items => cases plain
      | mapping entries => cases plain
      | _ => rfl
  | @list items each =>
      rw [prune, step, step]
      cases segment.position? with
      | none => rfl
      | some position =>
          rw [Option.bind_some, Option.bind_some, element_of_pruned]
          cases element? items position <;> rfl
  | @mapping entries distinct each =>
      rw [prune, step, step]
      cases segment.name? with
      | none => rfl
      | some name => exact entry_of_pruned distinct name

/-- A value and what is left of it without the entries that hold null are like each other. -/
theorem pruned_likeness : Likeness fun value other => value.IsKeyed ∧ other = value.prune := by
  constructor
  · rintro value _ ⟨_, rfl⟩
    cases value with
    | list items =>
        rw [prune, prune_items]
        exact .list (List.length_map prune).symm
    | mapping entries => exact .mapping entries _
    | _ => exact .plain rfl
  · rintro value _ ⟨keyed, rfl⟩ segment
    exact ⟨keyed.step segment, step_of_pruned keyed segment⟩

end Datum

/-- Where no rule with validators is applied to a container, null and a missing entry are the
same: without the entries that hold null, the check of a value ends in the same fault or
reports the same. -/
theorem check_of_pruned {value : Value} (keyed : value.IsKeyed) (source : SchemaSource)
    (registry : Option Registry) (place : Path)
    (plain : ∀ check, Applies value source registry place check →
      check.rule.validation.getD [] ≠ [] → check.target.isContainer = false) :
    (check value source registry place).outcome.map (List.map Violation.headline) =
      (check value.prune source registry place).outcome.map (List.map Violation.headline) := by
  apply check_like Datum.pruned_likeness ⟨keyed, rfl⟩
  intro check validator twin applies container calls _
  obtain ⟨entry, listed, _⟩ := calls.made
  rw [plain check applies (List.ne_nil_of_mem listed)] at container
  cases container

/-- A hive without a name. One frame is missing, and another was not counted. -/
def hive : Value :=
  .mapping
    [("name", .null),
      ("frames", .list
        [.mapping [("count", .integer 3), ("note", .null)], .null,
          .mapping [("note", .null), ("count", .null)]]),
      ("queen", .mapping [("marked", .null)])]

def hiveRules : SchemaSource :=
  .declared (.mapping
    [("name", .mapping
        [("allowNull", .bool true), ("validate", .mapping [("isString", .bool true)])]),
      ("frames", .mapping
        [("type", .text "array"),
          ("schema", .mapping
            [("count", .mapping
                [("type", .text "integer"), ("validate", .mapping [("equals", .integer 5)])]),
              ("note", .mapping
                [("allowNull", .bool true), ("validate", .mapping [("isString", .bool true)])])])]),
      ("queen", .mapping
        [("type", .text "object"),
          ("schema", .mapping [("marked", .mapping [("type", .text "boolean")])])])])

theorem hive_keyed : hive.IsKeyed := by
  simp [hive]

theorem hive_checked_without_null :
    hive.IsKeyed ∧
      (∀ check, Applies hive hiveRules none [] check →
        check.rule.validation.getD [] ≠ [] → check.target.isContainer = false) ∧
      hive.prune = .mapping
        [("frames", .list [.mapping [("count", .integer 3)], .null, .mapping []]),
          ("queen", .mapping [])] ∧
      ∃ found others, (check hive hiveRules none []).outcome = .ok found ∧
        (check hive.prune hiveRules none []).outcome = .ok others ∧
        found.map Violation.path =
          [.text "queen.marked", .text "frames.0.count", .text "frames.1.count",
            .text "frames.2.count"] ∧
        found.map Violation.headline = others.map Violation.headline := by
  have plain : ∀ check, Applies hive hiveRules none [] check →
      check.rule.validation.getD [] ≠ [] → check.target.isContainer = false := by
    intro check applies validated
    have passed := applies.passes rfl
      (fun check => (check.rule.validation.getD []).isEmpty || !check.target.isContainer) rfl
    simpa [validated] using passed
  have same := check_of_pruned hive_keyed hiveRules none [] plain
  refine ⟨hive_keyed, plain, rfl, _, _, rfl, rfl, rfl, ?_⟩
  exact Except.ok.inj same

end DocumentRules
