import DocumentRules.Proofs.Validator.Violations
import DocumentRules.Registry.Family
import Mathlib.Data.List.Induction
import Mathlib.Data.List.Nodup

/-!
What a registry answers follows from its history, which is the list of the entries that
were registered in it, the oldest first. The history of a copy begins with the entries
that stood in the source when the copy was made; the history of a registry of looked-up
entries begins with these. A refused registration is in no history.
-/

set_option autoImplicit false

namespace DocumentRules

abbrev History := List RegistryEntry

namespace History

/-- The last entry that was registered under a name. -/
def latest? (history : History) (name : String) : Option RegistryEntry :=
  history.reverse.find? fun entry => entry.name = name

/-- Every registered name once, in the order of the first registrations. -/
def firstNames (history : History) : List String :=
  (history.map RegistryEntry.name).eraseDups

/-- The entries that later registrations have not replaced. -/
def standing (history : History) : List RegistryEntry :=
  history.firstNames.filterMap history.latest?

theorem latest_append (history : History) (entry : RegistryEntry) (name : String) :
    latest? (history ++ [entry]) name =
      if entry.name = name then some entry else history.latest? name := by
  by_cases own : entry.name = name <;> simp [latest?, own]

theorem first_names_append (history : History) (entry : RegistryEntry) :
    firstNames (history ++ [entry]) =
      if entry.name ∈ history.firstNames then history.firstNames
      else history.firstNames ++ [entry.name] := by
  have known : entry.name ∈ history.firstNames ↔ entry.name ∈ history.map RegistryEntry.name :=
    List.mem_eraseDups
  have parts : firstNames (history ++ [entry]) = history.firstNames ++
      ([entry.name].removeAll (history.map RegistryEntry.name)).eraseDups := by
    rw [firstNames, List.map_append, List.map_singleton, List.eraseDups_append, firstNames]
  rw [parts, if_congr known rfl rfl]
  by_cases old : entry.name ∈ history.map RegistryEntry.name
  · have dropped : [entry.name].removeAll (history.map RegistryEntry.name) = [] := by
      simpa [List.removeAll] using old
    rw [if_pos old, dropped, List.eraseDups_nil, List.append_nil]
  · have kept : [entry.name].removeAll (history.map RegistryEntry.name) = [entry.name] := by
      simpa [List.removeAll] using old
    rw [if_neg old, kept]
    rfl

end History

namespace Registry

variable {registry : Registry}

theorem of_entries_append (history : History) (entry : RegistryEntry) :
    ofEntries (history ++ [entry]) = (ofEntries history).put entry.name entry := by
  simp [ofEntries, insert]

theorem find_of_entries (history : History) (name : String) :
    (ofEntries history).find? name = history.latest? name := by
  induction history using List.reverseRecOn with
  | nil => rfl
  | append_singleton history entry induction =>
      rw [of_entries_append, History.latest_append]
      by_cases own : entry.name = name
      · subst own
        rw [if_pos rfl, find_put_same]
      · rw [if_neg own, find_put_other _ _ _ _ own, induction]

theorem names_of_entries (history : History) :
    (ofEntries history).names = history.firstNames := by
  induction history using List.reverseRecOn with
  | nil => rfl
  | append_singleton history entry induction =>
      rw [of_entries_append, names_put, induction, History.first_names_append]

theorem names_distinct (history : History) : (ofEntries history).names.Nodup := by
  induction history using List.reverseRecOn with
  | nil => exact List.nodup_nil
  | append_singleton history entry induction =>
      rw [of_entries_append, names_put]
      by_cases known : entry.name ∈ (ofEntries history).names
      · rw [if_pos known]
        exact induction
      · rw [if_neg known]
        exact List.nodup_append.mpr ⟨induction, List.nodup_singleton _, by
          intro name old other new same
          exact known (List.mem_singleton.mp new ▸ same ▸ old)⟩

theorem keyed_of_entries (history : History) :
    ∀ slot ∈ (ofEntries history).slots, slot.2.name = slot.1 := by
  induction history using List.reverseRecOn with
  | nil =>
      intro slot member
      cases member
  | append_singleton history entry induction =>
      intro slot member
      rw [of_entries_append] at member
      rcases mem_place member with placed | kept
      · rw [placed]
      · exact induction slot kept

/-- Where no name is there twice, looking up the names gives the entries. -/
theorem entries_found (distinct : registry.names.Nodup) :
    registry.names.filterMap registry.find? = registry.entries := by
  obtain ⟨slots⟩ := registry
  induction slots with
  | nil => rfl
  | cons own rest induction =>
      have later := List.nodup_cons.mp distinct
      have own_found : find? ⟨own :: rest⟩ own.1 = some own.2 := by simp [find?]
      have rest_found : ∀ name ∈ names ⟨rest⟩, find? ⟨own :: rest⟩ name = find? ⟨rest⟩ name := by
        intro name member
        have different : own.1 ≠ name := fun same => later.1 (same ▸ member)
        simp [find?, different]
      change (own.1 :: names ⟨rest⟩).filterMap (find? ⟨own :: rest⟩) = own.2 :: entries ⟨rest⟩
      rw [List.filterMap_cons, own_found, List.filterMap_congr rest_found, induction later.2]

theorem entries_of_entries (history : History) :
    (ofEntries history).entries = history.standing := by
  rw [← entries_found (names_distinct history), names_of_entries, History.standing]
  exact congrArg (fun look => history.firstNames.filterMap look) (funext (find_of_entries history))

/-- What a registry with a history answers. -/
structure Answers (registry : Registry) (history : History) : Prop where
  latest : ∀ name, registry.find? name = history.latest? name
  keyed : ∀ slot ∈ registry.slots, slot.2.name = slot.1
  ordered : registry.names = history.firstNames
  distinct : registry.names.Nodup
  standing : registry.entries = history.standing
  counted : registry.size = registry.names.length
  present : ∀ name, registry.contains name = true ↔ registry.find? name ≠ none

theorem of_entries_answers (history : History) : (ofEntries history).Answers history where
  latest := find_of_entries history
  keyed := keyed_of_entries history
  ordered := names_of_entries history
  distinct := names_distinct history
  standing := entries_of_entries history
  counted := (List.length_map Prod.fst).symm
  present name := (contains_iff _ name).trans (found_iff_named _ name).symm

end Registry

namespace RegistryStep

/-- The entries that were picked, if all of them are there. -/
def picked? (histories : List History) (picks : List (Nat × String)) :
    Option (List RegistryEntry) :=
  picks.mapM fun (number, name) => (histories[number]?).bind fun history => history.latest? name

theorem picked_cons (histories : List History) (number : Nat) (name : String)
    (rest : List (Nat × String)) :
    picked? histories ((number, name) :: rest) =
      ((histories[number]?).bind fun history => history.latest? name).bind fun entry =>
        (picked? histories rest).map fun entries => entry :: entries := by
  rw [picked?, List.mapM_cons, Option.bind_eq_bind]
  congr 1
  funext entry
  cases later : picked? histories rest <;> rw [picked?] at later <;> rw [later] <;> rfl

/-- The histories of all registries after a step. -/
def record (histories : List History) : RegistryStep → List History
  | .create => histories ++ [[]]
  | .createBundled =>
      histories ++ [Predicate.textPredicates.map fun (name, predicate) => ⟨name, predicate, true⟩]
  | .copy source =>
      match histories[source]? with
      | some history => histories ++ [history.standing]
      | none => histories
  | .gather picks =>
      match picked? histories picks with
      | some entries => histories ++ [entries]
      | none => histories
  | .register target name given textual =>
      match histories[target]?, given with
      | some history, .callable predicate =>
          histories.set target (history ++ [⟨name, predicate, textual⟩])
      | _, _ => histories

/-- The histories of the registries that a run has made. -/
def histories (steps : List RegistryStep) : List History := steps.foldl record []

def RegistersIn (number : Nat) : RegistryStep → Prop
  | .register target _ _ _ => target = number
  | _ => False

end RegistryStep

namespace RegistryFamily

variable {family : RegistryFamily} {histories : List History}

/-- Every registry is what its history makes of it. -/
def Follows (family : RegistryFamily) (histories : List History) : Prop :=
  family.members = histories.map Registry.ofEntries

theorem member_of_follows (follows : family.Follows histories) (number : Nat) :
    family.member number =
      match histories[number]? with
      | some history => .ok (Registry.ofEntries history)
      | none => .error .unknownName := by
  rw [member, follows, List.getElem?_map]
  cases histories[number]? <;> rfl

theorem add_follows (follows : family.Follows histories) (history : History) :
    (family.add (Registry.ofEntries history)).Follows (histories ++ [history]) := by
  simp [Follows, add, List.map_append, show family.members = _ from follows]

theorem set_follows (follows : family.Follows histories) (number : Nat) (history : History) :
    Follows ⟨family.members.set number (Registry.ofEntries history)⟩
      (histories.set number history) := by
  simp [Follows, List.map_set, show family.members = _ from follows]

theorem picked_of_follows (follows : family.Follows histories) (picks : List (Nat × String)) :
    (family.picked picks).toOption = RegistryStep.picked? histories picks := by
  induction picks with
  | nil => rfl
  | cons pick rest induction =>
      obtain ⟨number, name⟩ := pick
      rw [RegistryStep.picked_cons, ← induction, picked, member_of_follows follows]
      cases histories[number]? with
      | none => rfl
      | some history =>
          simp only [bind, Except.bind, Option.bind, Registry.find_of_entries]
          cases history.latest? name with
          | none => rfl
          | some entry => cases family.picked rest <;> rfl

/-- A step that is taken is recorded, one that fails is not. -/
theorem after_follows (follows : family.Follows histories) (step : RegistryStep) :
    (family.after step).Follows (step.record histories) := by
  cases step with
  | create => exact add_follows follows []
  | createBundled => exact add_follows follows _
  | copy source =>
      simp only [after, apply, member_of_follows follows, RegistryStep.record]
      cases histories[source]? with
      | none => exact follows
      | some history =>
          change (family.add (.ofEntries (Registry.ofEntries history).entries)).Follows _
          rw [Registry.entries_of_entries]
          exact add_follows follows history.standing
  | gather picks =>
      simp only [after, apply, RegistryStep.record, ← picked_of_follows follows]
      cases family.picked picks with
      | error fault => exact follows
      | ok entries => exact add_follows follows entries
  | register target name given textual =>
      simp only [after, apply, member_of_follows follows, RegistryStep.record]
      cases histories[target]? with
      | none => exact follows
      | some history =>
          cases given with
          | callable predicate =>
              let entry : RegistryEntry := ⟨name, predicate, textual⟩
              change Follows
                ⟨family.members.set target ((Registry.ofEntries history).put entry.name entry)⟩
                (histories.set target (history ++ [entry]))
              rw [← Registry.of_entries_append]
              exact set_follows follows target (history ++ [entry])
          | _ => exact follows

theorem run_follows (follows : family.Follows histories) (steps : List RegistryStep) :
    (family.run steps).Follows (steps.foldl RegistryStep.record histories) := by
  induction steps generalizing family histories with
  | nil => exact follows
  | cons step rest induction => exact induction (after_follows follows step)

theorem empty_follows : empty.Follows [] := rfl

theorem refused (family : RegistryFamily) {target : Nat} (there : target < family.members.length)
    (name : String) {given : Declaration} (plain : ∀ predicate, given ≠ .callable predicate)
    (textual : Bool) :
    family.apply (.register target name given textual) = .error (.notCallable name) := by
  rw [apply, member, List.getElem?_eq_getElem there]
  change ((family.members[target]).register name given textual).bind _ = _
  cases given with
  | callable predicate => exact absurd rfl (plain predicate)
  | _ => rfl

theorem add_other (family : RegistryFamily) (registry : Registry) {number : Nat}
    (there : number < family.members.length) :
    (family.add registry).members[number]? = family.members[number]? :=
  List.getElem?_append_left there

/-- A step that does not register in a registry leaves that registry as it is. -/
theorem after_other (family : RegistryFamily) {step : RegistryStep} {number : Nat}
    (there : number < family.members.length) (other : ¬ step.RegistersIn number) :
    (family.after step).members[number]? = family.members[number]? := by
  cases step with
  | create => exact family.add_other _ there
  | createBundled => exact family.add_other _ there
  | copy source =>
      rw [after, apply]
      cases family.member source with
      | error fault => rfl
      | ok registry => exact family.add_other _ there
  | gather picks =>
      rw [after, apply]
      cases family.picked picks with
      | error fault => rfl
      | ok entries => exact family.add_other _ there
  | register target name given textual =>
      rw [after, apply]
      cases family.member target with
      | error fault => rfl
      | ok registry =>
          cases given with
          | callable predicate => exact List.getElem?_set_ne other
          | _ => rfl

/-- In every run each registry answers from its own history; what cannot be called is refused
and changes nothing, and no step changes the answers of a registry it does not register in. -/
theorem registries_answer_histories (steps : List RegistryStep) :
    let family := empty.run steps
    let histories := RegistryStep.histories steps
    family.members.length = histories.length ∧
      (∀ (number : Nat) (registry : Registry), family.members[number]? = some registry →
        ∃ history, histories[number]? = some history ∧ registry.Answers history) ∧
      (∀ target name given textual, target < family.members.length →
        (∀ predicate, given ≠ .callable predicate) →
          family.apply (.register target name given textual) = .error (.notCallable name) ∧
          family.after (.register target name given textual) = family) ∧
      ∀ step number, number < family.members.length → ¬ step.RegistersIn number →
        (family.after step).members[number]? = family.members[number]? := by
  intro family histories
  have follows : family.Follows histories := run_follows empty_follows steps
  refine ⟨by rw [follows, List.length_map], ?_, ?_, fun step number => after_other family⟩
  · intro number registry found
    rw [follows, List.getElem?_map] at found
    obtain ⟨history, there, same⟩ := Option.map_eq_some_iff.mp found
    exact ⟨history, there, same ▸ Registry.of_entries_answers history⟩
  · intro target name given textual there plain
    have refusal := family.refused there name plain textual
    exact ⟨refusal, by rw [after, refusal]⟩

/-- A registry is copied and then changed, and a third takes one entry from each of the two. -/
def copiedMidway : List RegistryStep :=
  let always : Predicate := .ofTest fun _ _ => .ok true
  [.create, .register 0 "even" (.callable always) false, .register 0 "odd" (.callable always) false,
    .copy 0, .register 0 "even" (.callable always) true, .register 1 "late" .null false,
    .gather [(0, "odd"), (1, "even")]]

/-- The copy does not see that a name is registered anew in its source. -/
theorem copied_midway_answers :
    let family := empty.run copiedMidway
    family.members.map (fun registry =>
        (registry.names, (registry.find? "even").map RegistryEntry.textual)) =
      [(["even", "odd"], some true), (["even", "odd"], some false), (["odd", "even"], some false)] ∧
      (∃ registry history, family.members[1]? = some registry ∧
        (RegistryStep.histories copiedMidway)[1]? = some history ∧ registry.Answers history) ∧
      family.apply (.register 1 "late" .null false) = .error (.notCallable "late") ∧
      (family.after (.copy 0)).members[1]? = family.members[1]? := by
  have run := registries_answer_histories copiedMidway
  have there : 1 < (empty.run copiedMidway).members.length := by
    rw [run.1]
    decide
  have copy := List.getElem?_eq_getElem there
  obtain ⟨history, recorded, answers⟩ := run.2.1 1 _ copy
  refine ⟨rfl, ⟨_, history, copy, recorded, answers⟩, ?_, ?_⟩
  · exact (run.2.2.1 1 "late" .null false there fun _ same => by cases same).1
  · exact run.2.2.2 (.copy 0) 1 there fun registers => registers

end RegistryFamily

end DocumentRules
