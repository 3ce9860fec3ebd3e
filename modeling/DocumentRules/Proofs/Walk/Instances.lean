import DocumentRules.Walk.Places

/-!
The concrete paths that a path stands for in a value. They are found globally, by
widening a list of places segment after segment, and pinned down without any
recursion: a concrete path belongs to them exactly when each of its segments fits at
the place it is taken from, and they come in the order of their positions. The places
that walking visits are these.
-/

set_option autoImplicit false

namespace DocumentRules

namespace Segment

/-- The segments that one segment stands for at a value: the sign for every element stands
for each position of a list, every other segment for itself. -/
def steps (target : Value) : Segment → List Segment
  | .every =>
      match target with
      | .list items => (List.range items.length).map fun position : Nat => .index position
      | _ => []
  | segment => [segment]

/-- Whether a segment of a concrete path can stand for a segment at a value. -/
def Fits (target : Value) : Segment → Segment → Prop
  | .every, step => ∃ items, target = .list items ∧
      ∃ position : Nat, position < items.length ∧ step = .index position
  | segment, step => step = segment

theorem steps_of_direct (target : Value) {segment : Segment} (direct : segment ≠ .every) :
    segment.steps target = [segment] := by
  cases segment with
  | every => exact absurd rfl direct
  | _ => rfl

theorem mem_steps (target : Value) (segment step : Segment) :
    step ∈ segment.steps target ↔ segment.Fits target step := by
  cases segment with
  | every =>
      cases target with
      | list items =>
          constructor
          · intro member
            obtain ⟨position, bound, equal⟩ := List.mem_map.mp member
            exact ⟨items, rfl, position, List.mem_range.mp bound, equal.symm⟩
          · intro fits
            obtain ⟨_, ⟨rfl⟩, position, bound, same⟩ := fits
            exact List.mem_map.mpr ⟨position, List.mem_range.mpr bound, same.symm⟩
      | _ => simp [steps, Fits]
  | _ => simp [steps, Fits]

end Segment

namespace Path

def widen (value : Value) (reached : List Path) (segment : Segment) : List Path :=
  reached.flatMap fun before =>
    (segment.steps (value.follow before)).map fun step => before ++ [step]

/-- The concrete paths that a path stands for in a value. -/
def instances (path : Path) (value : Value) : List Path := path.foldl (widen value) [[]]

/-- A concrete path has as many segments as the path, and each of them fits where the ones
before it lead to. -/
structure IsInstance (path : Path) (value : Value) (concrete : Path) : Prop where
  length : concrete.length = path.length
  fits : ∀ (place : Nat) (segment step : Segment), path[place]? = some segment →
    concrete[place]? = some step → segment.Fits (value.follow (concrete.take place)) step

/-- Every segment of a concrete path fits somewhere on the way. -/
theorem IsInstance.fits_of_mem {path concrete : Path} {value : Value}
    (fitting : path.IsInstance value concrete) {step : Segment} (member : step ∈ concrete) :
    ∃ before segment, segment ∈ path ∧ segment.Fits (value.follow before) step := by
  obtain ⟨place, bound, there⟩ := List.getElem_of_mem member
  have inPath : place < path.length := by
    rw [← fitting.length]
    exact bound
  have stepped : concrete[place]? = some step := by
    rw [List.getElem?_eq_getElem bound, there]
  have fits := fitting.fits place path[place] step (List.getElem?_eq_getElem inPath) stepped
  exact ⟨concrete.take place, path[place], List.getElem_mem inPath, fits⟩

/-- The positions that a concrete path has in the place of the signs for every element. -/
def indices (path concrete : Path) : List Int :=
  (path.zip concrete).filterMap fun (segment, step) =>
    if segment = .every then step.position? else none

theorem step_position (items : List Value) (position : Nat) :
    (Datum.list items).step (.index position) = (items[position]?).getD .null := by
  simp [Datum.step, Segment.position?, Datum.element?]

theorem numbered_range (start : Int) (items : List Value) :
    Walk.numbered start items =
      (List.range items.length).map fun position : Nat =>
        (start + (position : Int), (items[position]?).getD .null) := by
  induction items generalizing start with
  | nil => rfl
  | cons item rest induction =>
      rw [List.length_cons, List.range_succ_eq_map, List.map_cons, List.map_map, Walk.numbered,
        induction]
      simp only [List.getElem?_cons_zero, Option.getD_some, Function.comp_def,
        List.getElem?_cons_succ, List.cons.injEq, List.map_inj_left, List.mem_range]
      refine ⟨by simp, ?_⟩
      intro position _
      apply Prod.ext
      · change start + 1 + (position : Int) = start + ((position + 1 : Nat) : Int)
        omega
      · rfl

theorem places_cons (segment : Segment) (rest : Path) (value : Value) :
    places (segment :: rest) value =
      (segment.steps value).flatMap fun step =>
        (places rest (value.step step)).map fun (inner, target) => (step :: inner, target) := by
  cases segment with
  | every =>
      cases value with
      | list items =>
          rw [places, numbered_range, Segment.steps, List.flatMap_map, List.flatMap_map]
          apply congrArg (fun each => List.flatMap each (List.range items.length))
          funext position
          simp only [Int.zero_add, step_position]
      | _ => rfl
  | _ => simp [places, Segment.steps]

/-- The places of two paths joined are those of the second one from each place of the first. -/
theorem places_append (first second : Path) (value : Value) :
    places (first ++ second) value =
      (places first value).flatMap fun (before, middle) =>
        (places second middle).map fun (inner, target) => (before ++ inner, target) := by
  induction first generalizing value with
  | nil => simp [places]
  | cons segment rest induction =>
      rw [List.cons_append, places_cons, places_cons, List.flatMap_assoc]
      apply congrArg (fun each => List.flatMap each (segment.steps value))
      funext step
      rw [induction, List.map_flatMap, List.flatMap_map]
      simp [Function.comp_def]

theorem places_follow (path : Path) (value : Value) :
    path.places value =
      ((path.places value).map Prod.fst).map fun place => (place, value.follow place) := by
  induction path generalizing value with
  | nil => rfl
  | cons segment rest induction =>
      rw [places_cons, List.map_flatMap, List.map_flatMap]
      apply congrArg (fun each => List.flatMap each (segment.steps value))
      funext step
      rw [induction (value.step step)]
      simp [Datum.follow_cons, Function.comp_def]

theorem foldl_widen (path : Path) (value : Value) (reached : List Path) :
    path.foldl (widen value) reached =
      reached.flatMap fun before =>
        ((path.places (value.follow before)).map Prod.fst).map fun inner => before ++ inner := by
  induction path generalizing reached with
  | nil => simp [places]
  | cons segment rest induction =>
      rw [List.foldl_cons, induction, widen, List.flatMap_assoc]
      apply congrArg (fun each => List.flatMap each reached)
      funext before
      rw [places_cons, List.flatMap_map, List.map_flatMap, List.map_flatMap]
      apply congrArg (fun each => List.flatMap each (segment.steps (value.follow before)))
      funext step
      simp [Datum.follow_append, Datum.follow_cons, Datum.follow_nil, Function.comp_def]

theorem instances_places (path : Path) (value : Value) :
    path.instances value = (path.places value).map Prod.fst := by
  rw [instances, foldl_widen]
  simp [Datum.follow_nil]

/-- The places of a path are its concrete paths with what they lead to. -/
theorem places_instances (path : Path) (value : Value) :
    path.places value =
      (path.instances value).map fun concrete => (concrete, value.follow concrete) := by
  rw [instances_places, ← places_follow]

theorem instances_of_direct (path : Path) (value : Value) (direct : path.hasEvery = false) :
    path.instances value = [path] := by
  rw [instances_places]
  induction path generalizing value with
  | nil => rfl
  | cons segment rest induction =>
      simp only [hasEvery, List.contains_cons, Bool.or_eq_false_iff, beq_eq_false_iff_ne,
        ne_eq] at direct
      have inner := induction (value.step segment) direct.2
      rw [places_cons, Segment.steps_of_direct value (Ne.symm direct.1), List.flatMap_singleton,
        List.map_map]
      have consed := congrArg (List.map (List.cons segment)) inner
      rwa [List.map_map] at consed

theorem is_instance_nil (value : Value) (concrete : Path) :
    IsInstance [] value concrete ↔ concrete = [] := by
  constructor
  · intro fitting
    exact List.eq_nil_of_length_eq_zero fitting.length
  · intro empty
    rw [empty]
    exact ⟨rfl, by simp⟩

theorem is_instance_cons (segment : Segment) (rest : Path) (value : Value) (concrete : Path) :
    IsInstance (segment :: rest) value concrete ↔
      ∃ step inner, concrete = step :: inner ∧ segment.Fits value step ∧
        IsInstance rest (value.step step) inner := by
  constructor
  · intro fitting
    cases concrete with
    | nil => exact absurd fitting.length (by simp)
    | cons step inner =>
        refine ⟨step, inner, rfl, fitting.fits 0 segment step rfl rfl, ?_⟩
        refine ⟨by simpa using fitting.length, ?_⟩
        intro place later taken there stepped
        exact fitting.fits (place + 1) later taken (by simpa using there) (by simpa using stepped)
  · intro fitting
    obtain ⟨step, inner, rfl, fits, fitting⟩ := fitting
    refine ⟨by simp [fitting.length], ?_⟩
    intro place later taken there stepped
    cases place with
    | zero =>
        simp only [List.getElem?_cons_zero, Option.some.injEq] at there stepped
        subst there stepped
        exact fits
    | succ place =>
        exact fitting.fits place later taken (by simpa using there) (by simpa using stepped)

theorem mem_instances_cons (segment : Segment) (rest : Path) (value : Value) (concrete : Path) :
    concrete ∈ instances (segment :: rest) value ↔
      ∃ step inner, concrete = step :: inner ∧ segment.Fits value step ∧
        inner ∈ instances rest (value.step step) := by
  simp only [instances_places, places_cons, List.map_flatMap, List.map_map, List.mem_flatMap,
    List.mem_map, Function.comp_def, Segment.mem_steps]
  constructor
  · intro reached
    obtain ⟨step, fits, ⟨inner, target⟩, member, rfl⟩ := reached
    exact ⟨step, inner, rfl, fits, ⟨inner, target⟩, member, rfl⟩
  · intro reached
    obtain ⟨step, inner, rfl, fits, place, member, rfl⟩ := reached
    exact ⟨step, fits, place, member, rfl⟩

/-- The concrete paths are exactly those whose every segment fits. -/
theorem mem_instances (path : Path) (value : Value) (concrete : Path) :
    concrete ∈ path.instances value ↔ path.IsInstance value concrete := by
  induction path generalizing value concrete with
  | nil => simp [is_instance_nil, instances]
  | cons segment rest induction =>
      simp only [mem_instances_cons, is_instance_cons, induction]

theorem indices_cons_every (rest concrete : Path) (position : Nat) :
    indices (.every :: rest) (.index position :: concrete) =
      (position : Int) :: indices rest concrete := rfl

theorem indices_cons_direct {segment : Segment} (direct : segment ≠ .every) (step : Segment)
    (rest concrete : Path) :
    indices (segment :: rest) (step :: concrete) = indices rest concrete := by
  simp [indices, direct]

/-- The concrete paths come in the order of their positions, and none comes twice. -/
theorem instances_ascend (path : Path) (value : Value) :
    (path.instances value).Pairwise fun earlier later =>
      path.indices earlier < path.indices later := by
  rw [instances_places]
  induction path generalizing value with
  | nil => simp [places]
  | cons segment rest induction =>
      rw [places_cons, List.map_flatMap]
      by_cases every : segment = .every
      · subst every
        cases value with
        | list items =>
            rw [Segment.steps, List.flatMap_map, List.pairwise_flatMap]
            constructor
            · intro position _
              rw [List.map_map, Function.comp_def]
              have inner := induction ((Datum.list items).step (.index (position : Nat)))
              rw [List.pairwise_map] at inner ⊢
              refine inner.imp ?_
              -- Inside one element the first positions agree.
              intro earlier later ascending
              exact List.Lex.cons ascending
            · -- Of two elements the first position alone decides.
              refine List.pairwise_lt_range.imp ?_
              intro first second ascending earlier early later late
              simp only [List.map_map, List.mem_map, Function.comp_def] at early late
              obtain ⟨_, _, rfl⟩ := early
              obtain ⟨_, _, rfl⟩ := late
              rw [indices_cons_every, indices_cons_every]
              exact List.Lex.rel (by omega)
        | _ => simp [Segment.steps]
      · rw [Segment.steps_of_direct value every, List.flatMap_singleton, List.map_map,
          Function.comp_def]
        have inner := induction (value.step segment)
        rw [List.pairwise_map] at inner ⊢
        refine inner.imp ?_
        intro earlier later ascending
        rwa [indices_cons_direct every, indices_cons_direct every]

/-! ## What stands at the places of a path -/

theorem numbered_items (start : Int) (items : List Value) :
    (Walk.numbered start items).map Prod.snd = items := by
  induction items generalizing start with
  | nil => rfl
  | cons item rest induction => rw [Walk.numbered, List.map_cons, induction]

theorem forall_instances_direct (path : Path) (value : Value) (direct : path.hasEvery = false)
    (holds : Value → Prop) :
    (∀ concrete ∈ path.instances value, holds (value.follow concrete)) ↔
      holds (value.follow path) := by
  rw [instances_of_direct path value direct, List.forall_mem_singleton]

/-- A path through the elements of a list leads behind each of them, and nowhere if there is no
list. -/
theorem forall_instances_every (before after : Path) (value : Value)
    (directBefore : before.hasEvery = false) (directAfter : after.hasEvery = false)
    (holds : Value → Prop) :
    (∀ concrete ∈ instances (before ++ .every :: after) value, holds (value.follow concrete)) ↔
      ∀ items, value.follow before = .list items → ∀ item ∈ items, holds (item.follow after) := by
  have straight (path : Path) (value : Value) (direct : path.hasEvery = false) :
      path.places value = [(path, value.follow path)] := by
    rw [places_instances, instances_of_direct path value direct]
    rfl
  have byPlaces : (∀ concrete ∈ instances (before ++ .every :: after) value,
      holds (value.follow concrete)) ↔
      ∀ place ∈ places (.every :: after) (value.follow before), holds place.2 := by
    have targets : (instances (before ++ .every :: after) value).map value.follow =
        (places (.every :: after) (value.follow before)).map Prod.snd := by
      have joined := congrArg (List.map Prod.snd) (places_append before (.every :: after) value)
      rw [straight before value directBefore, List.flatMap_singleton, places_instances] at joined
      simpa [Function.comp_def] using joined
    rw [← List.forall_mem_map (P := holds), targets, List.forall_mem_map]
  rw [byPlaces]
  cases value.follow before with
  | list items =>
      simp only [places, straight after _ directAfter, List.map_singleton, Datum.list.injEq]
      constructor
      · rintro all given rfl item member
        rw [← numbered_items 0 items] at member
        obtain ⟨⟨position, own⟩, listed, rfl⟩ := List.mem_map.mp member
        exact all (.index position :: after, own.follow after)
          (List.mem_flatMap.mpr ⟨(position, own), listed, List.mem_singleton.mpr rfl⟩)
      · intro all place member
        obtain ⟨⟨position, own⟩, listed, same⟩ := List.mem_flatMap.mp member
        have inside : own ∈ items := by
          rw [← numbered_items 0 items]
          exact List.mem_map.mpr ⟨(position, own), listed, rfl⟩
        rw [List.mem_singleton.mp same]
        exact all items rfl own inside
  | _ => simp [places]

end Path

end DocumentRules
