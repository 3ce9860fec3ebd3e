import DocumentRules.Walk.Table

/-!
The places that a path leads to, taken segment by segment: a sign for every element
gives one place for each element of a list and none elsewhere. Walking an entry of a
table is applying its rule at each of these places, from first to last.
-/

set_option autoImplicit false

namespace DocumentRules

namespace Run

variable {α β γ : Type}

theorem flat_map_nil (each : β → Run (List α)) : flatMap [] each = Run.pure [] := rfl

theorem flat_map_cons (item : β) (rest : List β) (each : β → Run (List α)) :
    flatMap (item :: rest) each =
      (each item).bind fun found =>
        (flatMap rest each).bind fun later => Run.pure (found ++ later) := rfl

theorem flat_map_single (item : β) (each : β → Run (List α)) :
    flatMap [item] each = each item := by
  simp [flat_map_cons, flat_map_nil, bind_pure, bind_pure_right]

theorem flat_map_append (left right : List β) (each : β → Run (List α)) :
    flatMap (left ++ right) each =
      (flatMap left each).bind fun found =>
        (flatMap right each).bind fun later => Run.pure (found ++ later) := by
  simp only [flatMap, List.map_append, appended_append]

theorem flat_map_map (items : List γ) (change : γ → β) (each : β → Run (List α)) :
    flatMap (items.map change) each = flatMap items fun item => each (change item) := by
  simp [flatMap, Function.comp_def]

theorem flat_map_flat_map (items : List γ) (inner : γ → List β) (each : β → Run (List α)) :
    flatMap (items.flatMap inner) each = flatMap items fun item => flatMap (inner item) each := by
  induction items with
  | nil => rfl
  | cons item rest induction =>
      rw [List.flatMap_cons, flat_map_append, induction, flat_map_cons]

end Run

namespace Path

/-- The places that a path leads to in a value, with what stands there. -/
def places : Path → Value → List (Path × Value)
  | [], value => [([], value)]
  | .every :: rest, .list items =>
      (Walk.numbered 0 items).flatMap fun (position, item) =>
        (places rest item).map fun (path, target) => (.index position :: path, target)
  | .every :: _, _ => []
  | segment :: rest, value =>
      (places rest (value.step segment)).map fun (path, target) => (segment :: path, target)

end Path

namespace Walk

theorem along_places (words : Vocabulary) (rule : Rule) (path before place : Path)
    (value : Value) :
    along words rule path.stretches.2 value place (before ++ path.stretches.1) =
      Run.flatMap (path.places (value.follow before)) fun (inner, target) =>
        rule.apply words (place ++ before ++ inner) target := by
  induction path generalizing before place value with
  | nil => simp [Path.stretches, Path.places, along, Run.flat_map_single]
  | cons segment rest induction =>
      cases segment with
      | every =>
          simp only [Path.stretches, List.append_nil, along]
          cases value.follow before with
          | list items =>
              simp only [Path.places, Run.flat_map_flat_map, Run.flat_map_map]
              refine congrArg (Run.flatMap (numbered 0 items)) (funext fun numbered => ?_)
              have inner := induction [] (place ++ before ++ [.index numbered.1]) numbered.2
              simpa [Datum.follow_nil] using inner
          | _ => rfl
      | field name =>
          have inner := induction (before ++ [.field name]) place value
          simpa [Path.stretches, Path.places, Datum.follow_append, Datum.follow_cons,
            Datum.follow_nil, Run.flat_map_map] using inner
      | index position =>
          have inner := induction (before ++ [.index position]) place value
          simpa [Path.stretches, Path.places, Datum.follow_append, Datum.follow_cons,
            Datum.follow_nil, Run.flat_map_map] using inner
      | flag truth =>
          have inner := induction (before ++ [.flag truth]) place value
          simpa [Path.stretches, Path.places, Datum.follow_append, Datum.follow_cons,
            Datum.follow_nil, Run.flat_map_map] using inner

/-- Walking an entry is applying its rule at every place of its path. -/
theorem entry_places (words : Vocabulary) (value : Value) (place : Path)
    (listed : TableEntry) :
    entry words value place listed =
      Run.flatMap (listed.path.places value) fun (inner, target) =>
        listed.rule.apply words (place ++ inner) target := by
  simpa [entry, Datum.follow_nil] using
    along_places words listed.rule listed.path [] place value

end Walk

end DocumentRules
