import DocumentRules.Proofs.Number.Decimal
import DocumentRules.Proofs.Path.Keys
import DocumentRules.Proofs.Walk.Instances
import Mathlib.Data.List.Basic

/-!
Labels of places. A place that a key of a schema leads to is written with its positions
in decimal and read back as a path that has those decimals as names; following that
path leads to the same value, because a list reads a name as a number. Only the whole
value has the label of the root, and no label shows a sign for every element.
-/

set_option autoImplicit false

namespace DocumentRules

open Number Text

namespace Segment

/-- A segment that keys can spell: the sign for every element, or a name without a point that is
no such sign. -/
def IsSpelled : Segment → Prop
  | .every => True
  | .field name => '.' ∉ name.toList ∧ name ≠ "[]" ∧ name ≠ "$"
  | _ => False

/-- A segment of a place inside a value: a name that keys can spell, or a position. -/
def IsReached : Segment → Prop
  | .every => False
  | .index position => 0 ≤ position
  | segment => segment.IsSpelled

/-- A position as the name that it is written with. -/
def spoken : Segment → Segment
  | .index position => .field (integerText position)
  | segment => segment

theorem of_name_spelled {name : String} (clean : '.' ∉ name.toList) :
    (ofName name).IsSpelled := by
  cases named : ofName name with
  | every => trivial
  | field own =>
      obtain ⟨rfl, notBrackets, notDollar⟩ := of_name_field named
      exact ⟨clean, notBrackets, notDollar⟩
  | index position =>
      rw [ofName] at named
      split at named <;> cases named
  | flag truth =>
      rw [ofName] at named
      split at named <;> cases named

theorem of_name_of_spelled {name : String} (spelled : (Segment.field name).IsSpelled) :
    ofName name = .field name := by
  obtain ⟨_, notBrackets, notDollar⟩ := spelled
  simp [ofName, notBrackets, notDollar]

theorem integer_text_spelled (position : Int) :
    (Segment.field (integerText position)).IsSpelled := by
  have letters := integer_chars_mem position
  have notIn : ∀ c : Char, c.isDigit = false → c ≠ '-' → c ∉ (integerText position).toList := by
    intro c notDigit notMinus member
    rw [integerText, String.toList_ofList] at member
    rcases letters c member with digit | minus
    · rw [notDigit] at digit
      exact Bool.false_ne_true digit
    · exact notMinus minus
  refine ⟨notIn '.' (by decide) (by decide), ?_, ?_⟩
  · intro same
    exact notIn '[' (by decide) (by decide) (by rw [same]; decide)
  · intro same
    exact notIn '$' (by decide) (by decide) (by rw [same]; decide)

/-- The name of a reached segment and what a key makes of it. -/
theorem name_of_reached {segment : Segment} (reached : segment.IsReached) :
    ∃ name, segment.name? = some name ∧ (Segment.field name).IsSpelled ∧
      segment.spoken = .field name := by
  cases segment with
  | field name => exact ⟨name, rfl, reached, rfl⟩
  | index position =>
      exact ⟨integerText position, rfl, integer_text_spelled position, rfl⟩
  | flag truth => exact False.elim reached
  | every => exact False.elim reached

end Segment

namespace Path

theorem of_key_spelled (key : String) : ∀ segment ∈ ofKey key, segment.IsSpelled := by
  intro segment member
  obtain ⟨part, inside, rfl⟩ := List.mem_map.mp member
  apply Segment.of_name_spelled
  rw [String.toList_ofList]
  exact cut_at_clean '.' key.toList part inside

def writtenNames (place : Path) : List (List Char) :=
  place.filterMap fun segment => segment.name?.map String.toList

theorem concrete_of_reached {place : Path} (reached : ∀ segment ∈ place, segment.IsReached) :
    place.hasEvery = false := by
  rw [hasEvery, Bool.eq_false_iff, ne_eq, List.contains_iff_mem]
  intro member
  exact reached _ member

/-- A path without a sign for every element is written by its names, alone or not. -/
theorem written_of_concrete {place : Path} (concrete : place.hasEvery = false) (bare : Bool) :
    place.writtenAs bare = String.ofList (joined ['.'] place.writtenNames) := by
  have parts : place.filterMap (partOf? (place.length == 1) bare) = place.writtenNames := by
    apply List.filterMap_congr
    intro segment member
    cases segment with
    | every =>
        rw [hasEvery, Bool.eq_false_iff, ne_eq, List.contains_iff_mem] at concrete
        exact absurd member concrete
    | field name => rfl
    | index position => rfl
    | flag truth => rfl
  rw [writtenAs, parts]

theorem concrete_append {start inner : Path} (concrete : start.hasEvery = false)
    (innerConcrete : inner.hasEvery = false) : (start ++ inner).hasEvery = false := by
  simp only [hasEvery, List.contains_eq_mem, decide_eq_false_iff_not] at *
  exact fun member => (List.mem_append.mp member).elim concrete innerConcrete

theorem written_append {start inner : Path} (concrete : start.hasEvery = false)
    (innerConcrete : inner.hasEvery = false) (startNames : start.writtenNames ≠ [])
    (innerNames : inner.writtenNames ≠ []) (bare : Bool) :
    (start ++ inner).writtenAs bare = start.writtenAs bare ++ "." ++ inner.writtenAs bare := by
  have names : (start ++ inner).writtenNames = start.writtenNames ++ inner.writtenNames :=
    List.filterMap_append
  rw [written_of_concrete (concrete_append concrete innerConcrete), written_of_concrete concrete,
    written_of_concrete innerConcrete, names, joined_append _ startNames innerNames,
    String.ofList_append, String.ofList_append]

theorem bare_key_of_reached {place : Path} (reached : ∀ segment ∈ place, segment.IsReached) :
    place.bareKey = String.ofList (joined ['.'] place.writtenNames) :=
  written_of_concrete (concrete_of_reached reached) true

theorem written_names_cons {segment : Segment} {name : String}
    (named : segment.name? = some name) (rest : Path) :
    writtenNames (segment :: rest) = name.toList :: writtenNames rest := by
  simp [writtenNames, named]

theorem written_names_nonempty {place : Path} (reached : ∀ segment ∈ place, segment.IsReached)
    (nonempty : place ≠ []) : place.writtenNames ≠ [] := by
  cases place with
  | nil => exact absurd rfl nonempty
  | cons segment rest =>
      obtain ⟨name, named, _⟩ := Segment.name_of_reached (reached segment List.mem_cons_self)
      rw [written_names_cons named]
      exact List.cons_ne_nil _ _

/-- What keys make of the written names are the segments with their positions as names. -/
theorem names_read_back {place : Path} (reached : ∀ segment ∈ place, segment.IsReached) :
    place.writtenNames.map (fun part => Segment.ofName (String.ofList part)) =
      place.map Segment.spoken := by
  induction place with
  | nil => rfl
  | cons segment rest induction =>
      obtain ⟨name, named, spelled, spoken⟩ :=
        Segment.name_of_reached (reached segment List.mem_cons_self)
      have later := induction fun other member => reached other (List.mem_cons_of_mem _ member)
      rw [written_names_cons named, List.map_cons, List.map_cons, String.ofList_toList,
        Segment.of_name_of_spelled spelled, spoken, later]

theorem written_names_spelled {place : Path} (reached : ∀ segment ∈ place, segment.IsReached) :
    ∀ part ∈ place.writtenNames, (Segment.field (String.ofList part)).IsSpelled := by
  intro part member
  obtain ⟨segment, inside, named⟩ := List.mem_filterMap.mp member
  obtain ⟨name, own, spelled, _⟩ := Segment.name_of_reached (reached segment inside)
  rw [own] at named
  cases named
  rwa [String.ofList_toList]

theorem cut_bare_key {place : Path} (reached : ∀ segment ∈ place, segment.IsReached)
    (nonempty : place ≠ []) : cutAt '.' place.bareKey.toList = place.writtenNames := by
  rw [bare_key_of_reached reached, String.toList_ofList]
  apply cut_at_joined
  · exact written_names_nonempty reached nonempty
  · intro part member
    have spelled := (written_names_spelled reached part member).1
    rwa [String.toList_ofList] at spelled

theorem of_key_bare_key {place : Path} (reached : ∀ segment ∈ place, segment.IsReached)
    (nonempty : place ≠ []) : ofKey place.bareKey = place.map Segment.spoken := by
  rw [ofKey, cut_bare_key reached nonempty, names_read_back reached]

/-- A place that a key spells and that is not the empty name alone. -/
structure IsReached (place : Path) : Prop where
  segments : ∀ segment ∈ place, segment.IsReached
  named : place ≠ [.field ""]

theorem spoken_empty_name {place : Path} (reached : ∀ segment ∈ place, segment.IsReached)
    (spoken : place.map Segment.spoken = [.field ""]) : place = [.field ""] := by
  obtain ⟨segment, rfl, own⟩ := List.map_eq_singleton_iff.mp spoken
  cases segment with
  | field name => exact congrArg (fun each => [each]) own
  | index position =>
      have empty : integerText position = "" := by simpa [Segment.spoken] using own
      have chars : integerChars position = [] := by
        have lists := congrArg String.toList empty
        rwa [integerText, String.toList_ofList] at lists
      exact absurd chars (integer_chars_nonempty position)
  | flag truth => exact False.elim (reached _ List.mem_cons_self)
  | every => exact False.elim (reached _ List.mem_cons_self)

theorem bare_key_nonempty {place : Path} (reached : place.IsReached) (nonempty : place ≠ []) :
    place.bareKey ≠ "" := by
  intro empty
  have back := of_key_bare_key reached.segments nonempty
  -- The empty key is read as the empty name, which no place is.
  rw [empty] at back
  exact reached.named (spoken_empty_name reached.segments back.symm)

theorem label_of_nonempty {place : Path} (reached : place.IsReached) (nonempty : place ≠ []) :
    place.label = place.bareKey := by
  rw [label, orRoot, if_neg (bare_key_nonempty reached nonempty)]

theorem label_root : label [] = "$" := rfl

theorem label_eq_dollar_iff {place : Path} (reached : place.IsReached) :
    place.label = "$" ↔ place = [] := by
  constructor
  · intro dollar
    by_contra nonempty
    have cut := cut_bare_key reached.segments nonempty
    rw [← label_of_nonempty reached nonempty, dollar] at cut
    have part : ['$'] ∈ place.writtenNames := by
      rw [← cut]
      decide
    exact (written_names_spelled reached.segments _ part).2.2 rfl
  · intro root
    rw [root, label_root]

/-- What a label becomes behind a prefix: that of the root is left out. -/
def labelAfter (start label : String) : String :=
  if label = "$" then start else start ++ "." ++ label

theorem label_after {start inner : Path} (concrete : start.hasEvery = false)
    (named : start.key ≠ "") (reached : inner.IsReached) :
    (start ++ inner).label = labelAfter start.key inner.label := by
  have same : start.bareKey = start.key :=
    (written_of_concrete concrete true).trans (written_of_concrete concrete false).symm
  by_cases root : inner = []
  · subst root
    rw [List.append_nil, label_root, labelAfter, if_pos rfl, label, orRoot, same, if_neg named]
  · have startNames : start.writtenNames ≠ [] := by
      intro nameless
      rw [key, written_of_concrete concrete, nameless] at named
      exact named rfl
    have innerNames := written_names_nonempty reached.segments root
    have innerConcrete := concrete_of_reached reached.segments
    have whole : (start ++ inner).bareKey = start.key ++ "." ++ inner.label := by
      rw [label_of_nonempty reached root, ← same]
      exact written_append concrete innerConcrete startNames innerNames true
    -- Behind the prefix there is at least a point, so this is not shown as the root.
    have shown : (start ++ inner).bareKey ≠ "" := by
      rw [whole]
      intro empty
      simpa using congrArg String.toList empty
    rw [labelAfter, if_neg fun dollar => root ((label_eq_dollar_iff reached).mp dollar), label,
      orRoot, if_neg shown, whole]

theorem label_parts {place : Path} (reached : place.IsReached) :
    ∀ part ∈ cutAt '.' place.label.toList, part ≠ ['[', ']'] := by
  intro part member same
  by_cases root : place = []
  · subst root
    rw [label_root, same] at member
    exact absurd member (by decide)
  · rw [label_of_nonempty reached root, cut_bare_key reached.segments root, same] at member
    exact (written_names_spelled reached.segments _ member).2.1 rfl

end Path

namespace Datum

/-- A position and its decimal name lead to the same value. -/
theorem step_spoken (value : Value) (segment : Segment)
    (short : ∀ position, segment = .index position →
      (naturalChars position.natAbs).length ≤ digitLimit) :
    value.step segment.spoken = value.step segment := by
  cases segment with
  | index position =>
      have back := read_integer_chars position (short position rfl)
      have same : (Segment.index position).spoken.position? =
          (Segment.index position).position? := by
        rw [Segment.spoken, Segment.position?, integerText, String.toList_ofList, back]
        rfl
      cases value with
      | list items => simp only [step, same]
      | _ => rfl
  | _ => rfl

theorem follow_spoken (value : Value) (path : Path)
    (short : ∀ position, Segment.index position ∈ path →
      (naturalChars position.natAbs).length ≤ digitLimit) :
    value.follow (path.map Segment.spoken) = value.follow path := by
  induction path generalizing value with
  | nil => rfl
  | cons segment rest induction =>
      rw [List.map_cons, follow_cons, follow_cons, step_spoken value segment, induction]
      · intro position member
        exact short position (List.mem_cons_of_mem segment member)
      · intro position same
        exact short position (same ▸ List.mem_cons_self)

/-- A path may be cut anywhere and followed piece by piece, and its positions may stand in it as
their decimal names. -/
theorem follow_in_pieces_and_words (value : Value) :
    (∀ first second : Path,
        value.follow (first ++ second) = (value.follow first).follow second) ∧
      ∀ path : Path,
        (∀ position, Segment.index position ∈ path →
          (naturalChars position.natAbs).length ≤ digitLimit) →
        value.follow (path.map Segment.spoken) = value.follow path := by
  constructor
  · intro first second
    exact follow_append value first second
  · intro path short
    exact follow_spoken value path short

/-- A list that is reached by position, with a mapping that has a number among its names. -/
def shelves : Value := .mapping [("rows", .list [.null, .mapping [("7", .text "atlas")]])]

def atlasPath : Path := [.field "rows", .index 1, .index 7]

theorem atlas_found_in_words :
    (∀ position, Segment.index position ∈ atlasPath →
        (naturalChars position.natAbs).length ≤ digitLimit) ∧
      atlasPath.map Segment.spoken = [.field "rows", .field "1", .field "7"] ∧
      shelves.follow [.field "rows", .field "1", .field "7"] = shelves.follow atlasPath ∧
      shelves.follow atlasPath = .text "atlas" ∧
      shelves.follow atlasPath = (shelves.follow [.field "rows"]).follow [.index 1, .index 7] := by
  have short : ∀ position, Segment.index position ∈ atlasPath →
      (naturalChars position.natAbs).length ≤ digitLimit := by
    simp only [atlasPath, List.mem_cons, List.not_mem_nil, or_false, Segment.index.injEq,
      reduceCtorEq, false_or, forall_eq_or_imp, forall_eq]
    decide
  obtain ⟨pieces, words⟩ := follow_in_pieces_and_words shelves
  exact ⟨short, rfl, words atlasPath short, rfl, pieces [.field "rows"] [.index 1, .index 7]⟩

/-- What a label names: the whole value, or what its path leads to. -/
def named (value : Value) (label : String) : Value :=
  if label = "$" then value else value.follow (Path.ofKey label)

/-- A label names what stands at its place. -/
theorem named_label (value : Value) {place : Path} (reached : place.IsReached)
    (short : ∀ position, Segment.index position ∈ place →
      (naturalChars position.natAbs).length ≤ digitLimit) :
    value.named place.label = value.follow place := by
  by_cases root : place = []
  · subst root
    rfl
  · rw [named, if_neg fun dollar => root ((Path.label_eq_dollar_iff reached).mp dollar),
      Path.label_of_nonempty reached root, Path.of_key_bare_key reached.segments root,
      follow_spoken value place short]

/-- Every list inside a value is so short that its positions can be read in decimal. Numbers of
more than `digitLimit` digits are not read; no list that fits into a memory has so many items. -/
def Addressable (value : Value) : Prop :=
  ∀ path items, value.follow path = .list items → items.length ≤ Nat.pow 10 digitLimit

theorem mem_of_entry {name : String} {item : Value} {entries : List (String × Value)}
    (found : entry? name entries = some item) : (name, item) ∈ entries := by
  induction entries with
  | nil => cases found
  | cons entry rest induction =>
      obtain ⟨own, other⟩ := entry
      rw [ entry?] at found
      by_cases same : own = name
      · rw [if_pos same] at found
        cases found
        exact same ▸ List.mem_cons_self
      · rw [if_neg same] at found
        exact List.mem_cons_of_mem _ (induction found)

theorem mem_of_element {position : Int} {item : Value} {items : List Value}
    (found : element? items position = some item) : item ∈ items := by
  rw [element?] at found
  split at found
  · exact List.mem_of_getElem? found
  · cases found

/-- One step into a value leads to null, to an item of a list or to what stands under a key. -/
theorem step_inside (value : Value) (segment : Segment) :
    value.step segment = .null ∨
      (∃ items, value = .list items ∧ value.step segment ∈ items) ∨
      ∃ entries name, value = .mapping entries ∧ (name, value.step segment) ∈ entries := by
  cases value with
  | list items =>
      rw [step]
      cases found : segment.position?.bind fun position => element? items position with
      | none => exact Or.inl rfl
      | some item =>
          obtain ⟨position, _, there⟩ := Option.bind_eq_some_iff.mp found
          exact Or.inr (Or.inl ⟨items, rfl, mem_of_element there⟩)
  | mapping entries =>
      rw [step]
      cases found : segment.name?.bind fun name => Datum.entry? name entries with
      | none => exact Or.inl rfl
      | some item =>
          obtain ⟨name, _, there⟩ := Option.bind_eq_some_iff.mp found
          exact Or.inr (Or.inr ⟨entries, name, rfl, mem_of_entry there⟩)
  | _ => exact Or.inl rfl

theorem step_of_plain {value : Value} (plain : value.isContainer = false) (segment : Segment) :
    value.step segment = .null := by
  rcases step_inside value segment with none | ⟨items, rfl, _⟩ | ⟨entries, _, rfl, _⟩
  · exact none
  · cases plain
  · cases plain

theorem addressable_of_steps {value : Value}
    (own : ∀ items, value = .list items → items.length ≤ Nat.pow 10 digitLimit)
    (inner : ∀ segment, (value.step segment).Addressable) : value.Addressable := by
  intro path items reached
  cases path with
  | nil => exact own items reached
  | cons segment rest => exact inner segment rest items reached

theorem addressable_null : Addressable .null := by
  intro path items reached
  rw [follow_null] at reached
  cases reached

theorem addressable_of_plain {value : Value} (plain : value.isContainer = false) :
    value.Addressable := by
  apply addressable_of_steps
  · rintro items rfl
    cases plain
  · intro segment
    rw [step_of_plain plain]
    exact addressable_null

theorem addressable_mapping {entries : List (String × Value)}
    (inner : ∀ entry ∈ entries, entry.2.Addressable) : Addressable (.mapping entries) := by
  apply addressable_of_steps
  · intro items impossible
    cases impossible
  · intro segment
    rcases step_inside (.mapping entries) segment with none | ⟨_, impossible, _⟩ |
      ⟨_, name, same, inside⟩
    · rw [none]
      exact addressable_null
    · cases impossible
    · cases same
      exact inner _ inside

theorem addressable_list {items : List Value} (own : items.length ≤ Nat.pow 10 digitLimit)
    (inner : ∀ item ∈ items, item.Addressable) : Addressable (.list items) := by
  apply addressable_of_steps
  · intro others same
    cases same
    exact own
  · intro segment
    rcases step_inside (.list items) segment with none | ⟨_, same, inside⟩ | ⟨_, _, impossible, _⟩
    · rw [none]
      exact addressable_null
    · cases same
      exact inner _ inside
    · cases impossible

end Datum

end DocumentRules
