import DocumentRules.Walk.Places

/-!
What a row of runs gives. It succeeds exactly when every one of its runs does, and then
gives their results one after the other. Whether it succeeds does not depend on the
order of the row, and another order gives the same results in another order.
-/

set_option autoImplicit false

namespace DocumentRules.Run

variable {α β γ : Type}

theorem except_bind_ok {ε : Type} {first : Except ε α} {next : α → Except ε β} {result : β}
    (ran : (first >>= next) = .ok result) :
    ∃ value, first = .ok value ∧ next value = .ok result := by
  cases first with
  | error fault => cases ran
  | ok value => exact ⟨value, rfl, ran⟩

theorem except_map_ok {ε : Type} {first : Except ε α} {change : α → β} {result : β}
    (ran : first.map change = .ok result) : ∃ value, first = .ok value ∧ change value = result := by
  cases first with
  | error fault => cases ran
  | ok value => exact ⟨value, rfl, Except.ok.inj ran⟩

theorem except_bind_error {ε : Type} {first : Except ε α} {next : α → Except ε β} {fault : ε}
    (ran : (first >>= next) = .error fault) :
    first = .error fault ∨ ∃ value, first = .ok value ∧ next value = .error fault := by
  cases first with
  | error own =>
      cases ran
      exact Or.inl rfl
  | ok value => exact Or.inr ⟨value, rfl, ran⟩

theorem ok_of_is_ok {ε : Type} {attempt : Except ε α} (succeeds : attempt.isOk = true) :
    ∃ value, attempt = .ok value := by
  cases attempt with
  | error fault => cases succeeds
  | ok value => exact ⟨value, rfl⟩

/-- The attempt gives a value that passes a test. -/
def givesSuch {ε : Type} (attempt : Except ε α) (test : α → Bool) : Bool :=
  match attempt with
  | .ok value => test value
  | .error _ => false

theorem ok_of_gives_such {ε : Type} {attempt : Except ε α} {test : α → Bool}
    (gives : givesSuch attempt test = true) : ∃ value, attempt = .ok value ∧ test value = true := by
  cases attempt with
  | error fault => cases gives
  | ok value => exact ⟨value, rfl, gives⟩

/-- Only whether an attempt succeeds, and its fault. -/
def discard {ε : Type} (attempt : Except ε α) : Except ε Unit := attempt.map fun _ => ()

section Discard

variable {ε : Type} (first : Except ε α)

theorem discard_map (change : α → β) : discard (first.map change) = discard first := by
  cases first <;> rfl

/-- Of two attempts, one after the other, only whether both succeed, and the first fault. -/
theorem discard_both (second : Except ε β) (join : α → β → γ) :
    discard (first >>= fun left => second >>= fun right => .ok (join left right)) =
      discard first >>= fun _ => discard second := by
  cases first with
  | error fault => rfl
  | ok left => cases second <;> rfl

theorem discard_ok_iff : discard first = .ok () ↔ ∃ value, first = .ok value := by
  cases first <;> simp [discard, Except.map]

theorem discard_error_iff (fault : ε) : discard first = .error fault ↔ first = .error fault := by
  cases first <;> simp [discard, Except.map]

end Discard

/-- A row of attempts succeeds when all of them do. -/
theorem for_all_ok_iff {ε : Type} (items : List β) (each : β → Except ε Unit) :
    forM items each = .ok () ↔ ∀ item ∈ items, each item = .ok () := by
  induction items with
  | nil => exact iff_of_true rfl (fun _ inside => absurd inside List.not_mem_nil)
  | cons item rest induction =>
      rw [List.forM_cons, List.forall_mem_cons, ← induction]
      cases each item with
      | error fault => exact iff_of_false nofun (fun both => nomatch both.1)
      | ok done => exact (and_iff_right rfl).symm

/-- A row of attempts ends in the fault of the first that fails. -/
theorem for_all_error_iff {ε : Type} (items : List β) (each : β → Except ε Unit) (fault : ε) :
    forM items each = .error fault ↔
      ∃ before item after, items = before ++ item :: after ∧
        (∀ other ∈ before, each other = .ok ()) ∧ each item = .error fault := by
  induction items with
  | nil =>
      constructor
      · intro impossible
        cases impossible
      · rintro ⟨before, item, after, listed, _⟩
        simp at listed
  | cons first rest induction =>
      rw [List.forM_cons]
      constructor
      · intro ran
        rcases except_bind_error ran with own | ⟨_, passed, later⟩
        · exact ⟨[], first, rest, rfl, by simp, own⟩
        · obtain ⟨before, item, after, listed, all, failed⟩ := induction.mp later
          exact ⟨first :: before, item, after, congrArg _ listed,
            List.forall_mem_cons.mpr ⟨passed, all⟩, failed⟩
      · rintro ⟨before, item, after, listed, all, failed⟩
        cases before with
        | nil =>
            cases listed
            rw [failed]
            rfl
        | cons passed before =>
            cases listed
            obtain ⟨own, others⟩ := List.forall_mem_cons.mp all
            rw [own]
            exact induction.mpr ⟨before, item, after, rfl, others, failed⟩

def Succeeds (run : Run α) : Prop := ∃ value, run.outcome = .ok value

/-- What a run has found; nothing if it ended in a fault. -/
def result (run : Run (List α)) : List α :=
  match run.outcome with
  | .ok found => found
  | .error _ => []

theorem outcome_of_succeeds {run : Run (List α)} (succeeds : run.Succeeds) :
    run.outcome = .ok run.result := by
  obtain ⟨found, outcome⟩ := succeeds
  rw [result, outcome]

theorem outcome_ok_iff (run : Run (List α)) (found : List α) :
    run.outcome = .ok found ↔ run.Succeeds ∧ found = run.result := by
  constructor
  · intro outcome
    refine ⟨⟨found, outcome⟩, ?_⟩
    rw [result, outcome]
  · intro both
    rw [both.2]
    exact outcome_of_succeeds both.1

theorem bind_ok_iff (run : Run α) (next : α → Run β) (value : β) :
    (run.bind next).outcome = .ok value ↔
      ∃ first, run.outcome = .ok first ∧ (next first).outcome = .ok value := by
  cases run with
  | mk calls outcome =>
      cases outcome with
      | error fault => simp [bind]
      | ok first => simp [bind]

theorem bind_error {run : Run α} {next : α → Run β} {fault : Fault}
    (ran : (run.bind next).outcome = .error fault) :
    run.outcome = .error fault ∨
      ∃ first, run.outcome = .ok first ∧ (next first).outcome = .error fault := by
  cases run with
  | mk calls outcome =>
      cases outcome with
      | error own =>
          cases ran
          exact Or.inl rfl
      | ok first => exact Or.inr ⟨first, rfl, ran⟩

theorem bind_pure_ok_iff (run : Run α) (change : α → β) (value : β) :
    (run.bind fun first => Run.pure (change first)).outcome = .ok value ↔
      ∃ first, run.outcome = .ok first ∧ value = change first := by
  rw [bind_ok_iff]
  simp only [Run.pure, Except.ok.injEq, eq_comm]

theorem succeeds_bind_pure (run : Run α) (change : α → β) :
    (run.bind fun first => Run.pure (change first)).Succeeds ↔ run.Succeeds := by
  constructor
  · intro succeeds
    obtain ⟨value, outcome⟩ := succeeds
    obtain ⟨first, ran, _⟩ := (bind_pure_ok_iff run change value).mp outcome
    exact ⟨first, ran⟩
  · intro succeeds
    obtain ⟨first, ran⟩ := succeeds
    exact ⟨change first, (bind_pure_ok_iff run change _).mpr ⟨first, ran, rfl⟩⟩

/-- The same run with what it gives changed. -/
def map (change : α → β) (run : Run α) : Run β := run.bind fun given => Run.pure (change given)

section Map

variable (run : Run α) (change : α → β)

theorem outcome_map : (run.map change).outcome = run.outcome.map change := by
  cases run with
  | mk calls outcome => cases outcome <;> rfl

theorem map_pure (value : α) : (Run.pure value).map change = Run.pure (change value) :=
  bind_pure value _

theorem map_of_except (attempt : Except Fault α) :
    (ofExcept attempt).map change = ofExcept (attempt.map change) := by
  cases attempt <;> rfl

theorem map_bind (next : α → Run β) (later : β → γ) :
    (run.bind next).map later = run.bind fun given => (next given).map later :=
  bind_assoc run next _

theorem bind_map (next : β → Run γ) :
    (run.map change).bind next = run.bind fun given => next (change given) := by
  simp only [map, bind_assoc, bind_pure]

theorem map_flat_map (items : List γ) (each : γ → Run (List α)) :
    (flatMap items each).map (List.map change) =
      flatMap items fun item => (each item).map (List.map change) := by
  induction items with
  | nil => rfl
  | cons item rest induction =>
      simp only [flat_map_cons, ← induction, map_bind, bind_map, map_pure, List.map_append]

end Map

/-- A row of runs succeeds when all of them do and gives what they give. -/
theorem flat_map_ok_iff (items : List β) (each : β → Run (List α)) (found : List α) :
    (flatMap items each).outcome = .ok found ↔
      (∀ item ∈ items, (each item).Succeeds) ∧
        found = items.flatMap fun item => (each item).result := by
  induction items generalizing found with
  | nil => simp [flatMap, appended, Run.pure, eq_comm]
  | cons item rest induction =>
      rw [flat_map_cons, bind_ok_iff, List.forall_mem_cons, List.flatMap_cons]
      constructor
      · intro ran
        obtain ⟨first, ran, outcome⟩ := ran
        obtain ⟨later, ranLater, rfl⟩ := (bind_pure_ok_iff _ _ _).mp outcome
        obtain ⟨succeeds, rfl⟩ := (outcome_ok_iff _ _).mp ran
        obtain ⟨others, rfl⟩ := (induction later).mp ranLater
        exact ⟨⟨succeeds, others⟩, rfl⟩
      · intro row
        obtain ⟨⟨succeeds, others⟩, rfl⟩ := row
        refine ⟨(each item).result, outcome_of_succeeds succeeds, ?_⟩
        apply (bind_pure_ok_iff _ _ _).mpr
        exact ⟨_, (induction _).mpr ⟨others, rfl⟩, rfl⟩

/-- A row of runs ends in the fault of one of them. -/
theorem flat_map_error {items : List β} {each : β → Run (List α)} {fault : Fault}
    (ran : (flatMap items each).outcome = .error fault) :
    ∃ item ∈ items, (each item).outcome = .error fault := by
  induction items with
  | nil => cases ran
  | cons item rest induction =>
      rw [flat_map_cons] at ran
      rcases bind_error ran with own | ⟨first, _, ran⟩
      · exact ⟨item, List.mem_cons_self, own⟩
      · rcases bind_error ran with later | ⟨others, _, impossible⟩
        · obtain ⟨other, inside, fault⟩ := induction later
          exact ⟨other, List.mem_cons_of_mem item inside, fault⟩
        · cases impossible

theorem succeeds_flat_map (items : List β) (each : β → Run (List α)) :
    (flatMap items each).Succeeds ↔ ∀ item ∈ items, (each item).Succeeds := by
  constructor
  · intro succeeds
    obtain ⟨found, outcome⟩ := succeeds
    exact ((flat_map_ok_iff items each found).mp outcome).1
  · intro all
    exact ⟨_, (flat_map_ok_iff items each _).mpr ⟨all, rfl⟩⟩

theorem flat_map_perm {left right : List β} (perm : left.Perm right) (each : β → Run (List α))
    {found : List α} (outcome : (flatMap left each).outcome = .ok found) :
    ∃ other, (flatMap right each).outcome = .ok other ∧ found.Perm other := by
  obtain ⟨all, rfl⟩ := (flat_map_ok_iff left each found).mp outcome
  refine ⟨_, (flat_map_ok_iff right each _).mpr ⟨?_, rfl⟩, perm.flatMap_right _⟩
  intro item member
  exact all item (perm.mem_iff.mpr member)

end DocumentRules.Run
