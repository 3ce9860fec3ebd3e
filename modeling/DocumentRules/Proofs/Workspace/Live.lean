import DocumentRules.Proofs.Run.Results
import DocumentRules.Workspace.Live

/-!
What is there of a live datum after keys have been taken out. A slot is a key of a mapping,
told by the mapping's number. Taking out slots that a datum does not have changes nothing,
what is left has none of those that were taken out, and a datum that has just been marked
has no slot in common with anything that was there before.
-/

set_option autoImplicit false

namespace DocumentRules

namespace LiveDatum

mutual

/-- All slots of a datum, at every depth. -/
def slots : LiveDatum → List (Nat × String)
  | .leaf _ => []
  | .list items => slotsOfItems items
  | .mapping number entries => slotsOfEntries number entries

def slotsOfItems : List LiveDatum → List (Nat × String)
  | [] => []
  | item :: rest => item.slots ++ slotsOfItems rest

def slotsOfEntries (number : Nat) : List (String × LiveDatum) → List (Nat × String)
  | [] => []
  | (key, item) :: rest => (number, key) :: (item.slots ++ slotsOfEntries number rest)

end

/-! ## Marking -/

mutual

theorem content_mark (next : Nat) (datum : Declaration) : (mark next datum).content = datum := by
  cases datum with
  | list items => rw [mark, content, content_mark_items]
  | mapping entries => rw [mark, content, content_mark_entries]
  | _ => rfl

theorem content_mark_items (next : Nat) (items : List Declaration) :
    contentItems (markItems next items) = items := by
  cases items with
  | nil => rfl
  | cons item rest => rw [markItems, contentItems, content_mark, content_mark_items]

theorem content_mark_entries (next : Nat) (entries : List (String × Declaration)) :
    contentEntries (markEntries next entries) = entries := by
  cases entries with
  | nil => rfl
  | cons entry rest =>
      rw [markEntries, contentEntries, content_mark, content_mark_entries]

end

variable {slot : Nat × String}

mutual

/-- The slots of a marked datum belong to the numbers that marking has used up. -/
theorem slots_mark {next : Nat} {datum : Declaration} (member : slot ∈ (mark next datum).slots) :
    next ≤ slot.1 ∧ slot.1 < next + width datum := by
  cases datum with
  | list items => exact slots_mark_items member
  | mapping entries =>
      rw [mark, slots] at member
      rw [width]
      rcases slots_mark_entries member with own | deeper <;> omega
  | _ => cases member

theorem slots_mark_items {next : Nat} {items : List Declaration}
    (member : slot ∈ slotsOfItems (markItems next items)) :
    next ≤ slot.1 ∧ slot.1 < next + widthOfItems items := by
  cases items with
  | nil => cases member
  | cons item rest =>
      rw [markItems, slotsOfItems, List.mem_append] at member
      rw [widthOfItems]
      rcases member with own | later
      · have bounds := slots_mark own
        omega
      · have bounds := slots_mark_items later
        omega

theorem slots_mark_entries {next number : Nat} {entries : List (String × Declaration)}
    (member : slot ∈ slotsOfEntries number (markEntries next entries)) :
    slot.1 = number ∨ next ≤ slot.1 ∧ slot.1 < next + widthOfEntries entries := by
  cases entries with
  | nil => cases member
  | cons entry rest =>
      rw [markEntries, slotsOfEntries, List.mem_cons, List.mem_append] at member
      rw [widthOfEntries]
      rcases member with own | own | later
      · exact Or.inl (congrArg Prod.fst own)
      · have bounds := slots_mark own
        omega
      · have bounds := slots_mark_entries later
        omega

end

/-! ## Taking keys out -/

mutual

/-- Of what is taken out, only the slots of the datum matter. -/
theorem without_congr {gone other : List (Nat × String)} {datum : LiveDatum}
    (same : ∀ slot ∈ datum.slots, slot ∈ gone ↔ slot ∈ other) :
    datum.without gone = datum.without other := by
  cases datum with
  | leaf datum => rfl
  | list items => rw [without, without, without_items_congr same]
  | mapping number entries => rw [without, without, without_entries_congr same]

theorem without_items_congr {gone other : List (Nat × String)} {items : List LiveDatum}
    (same : ∀ slot ∈ slotsOfItems items, slot ∈ gone ↔ slot ∈ other) :
    withoutInItems gone items = withoutInItems other items := by
  cases items with
  | nil => rfl
  | cons item rest =>
      rw [slotsOfItems, List.forall_mem_append] at same
      rw [withoutInItems, withoutInItems, without_congr same.1, without_items_congr same.2]

theorem without_entries_congr {gone other : List (Nat × String)} {number : Nat}
    {entries : List (String × LiveDatum)}
    (same : ∀ slot ∈ slotsOfEntries number entries, slot ∈ gone ↔ slot ∈ other) :
    withoutInEntries gone number entries = withoutInEntries other number entries := by
  cases entries with
  | nil => rfl
  | cons entry rest =>
      rw [slotsOfEntries, List.forall_mem_cons, List.forall_mem_append] at same
      obtain ⟨own, deeper, later⟩ := same
      rw [withoutInEntries, withoutInEntries, without_congr deeper, without_entries_congr later]
      simp only [own]

end

mutual

theorem without_nil (datum : LiveDatum) : datum.without [] = datum := by
  cases datum with
  | leaf datum => rfl
  | list items => rw [without, without_items_nil]
  | mapping number entries => rw [without, without_entries_nil]

theorem without_items_nil (items : List LiveDatum) : withoutInItems [] items = items := by
  cases items with
  | nil => rfl
  | cons item rest => rw [withoutInItems, without_nil, without_items_nil]

theorem without_entries_nil (number : Nat) (entries : List (String × LiveDatum)) :
    withoutInEntries [] number entries = entries := by
  cases entries with
  | nil => rfl
  | cons entry rest =>
      rw [withoutInEntries, if_neg List.not_mem_nil, without_nil, without_entries_nil]

end

mutual

/-- Taking out some slots and then others is taking out all of them. -/
theorem without_append (gone later : List (Nat × String)) (datum : LiveDatum) :
    datum.without (gone ++ later) = (datum.without gone).without later := by
  cases datum with
  | leaf datum => rfl
  | list items => rw [without, without, without, without_items_append]
  | mapping number entries => rw [without, without, without, without_entries_append]

theorem without_items_append (gone later : List (Nat × String)) (items : List LiveDatum) :
    withoutInItems (gone ++ later) items = withoutInItems later (withoutInItems gone items) := by
  cases items with
  | nil => rfl
  | cons item rest =>
      rw [withoutInItems, withoutInItems, withoutInItems, without_append, without_items_append]

theorem without_entries_append (gone later : List (Nat × String)) (number : Nat)
    (entries : List (String × LiveDatum)) :
    withoutInEntries (gone ++ later) number entries =
      withoutInEntries later number (withoutInEntries gone number entries) := by
  cases entries with
  | nil => rfl
  | cons entry rest =>
      have rest_same := without_entries_append gone later number rest
      have own_same := without_append gone later entry.2
      by_cases first : (number, entry.1) ∈ gone
      · rw [withoutInEntries, withoutInEntries, if_pos first,
          if_pos (List.mem_append_left later first), rest_same]
      · by_cases second : (number, entry.1) ∈ later
        · simp only [withoutInEntries, List.mem_append, first, second, or_true, if_true, if_false,
            rest_same]
        · simp only [withoutInEntries, List.mem_append, first, second, or_self, if_false,
            rest_same, own_same]

end

mutual

theorem slots_without {gone : List (Nat × String)} {datum : LiveDatum}
    (member : slot ∈ (datum.without gone).slots) : slot ∈ datum.slots ∧ slot ∉ gone := by
  cases datum with
  | leaf datum => cases member
  | list items => exact slots_without_items member
  | mapping number entries => exact slots_without_entries member

theorem slots_without_items {gone : List (Nat × String)} {items : List LiveDatum}
    (member : slot ∈ slotsOfItems (withoutInItems gone items)) :
    slot ∈ slotsOfItems items ∧ slot ∉ gone := by
  cases items with
  | nil => cases member
  | cons item rest =>
      rw [withoutInItems, slotsOfItems, List.mem_append] at member
      rw [slotsOfItems, List.mem_append]
      rcases member with own | later
      · exact (slots_without own).imp_left Or.inl
      · exact (slots_without_items later).imp_left Or.inr

theorem slots_without_entries {gone : List (Nat × String)} {number : Nat}
    {entries : List (String × LiveDatum)}
    (member : slot ∈ slotsOfEntries number (withoutInEntries gone number entries)) :
    slot ∈ slotsOfEntries number entries ∧ slot ∉ gone := by
  cases entries with
  | nil => cases member
  | cons entry rest =>
      rw [slotsOfEntries, List.mem_cons, List.mem_append]
      rw [withoutInEntries] at member
      split at member
      · exact (slots_without_entries member).imp_left fun later => Or.inr (Or.inr later)
      · rename_i kept
        rw [slotsOfEntries, List.mem_cons, List.mem_append] at member
        rcases member with own | deeper | later
        · exact ⟨Or.inl own, own ▸ kept⟩
        · exact (slots_without deeper).imp_left fun own => Or.inr (Or.inl own)
        · exact (slots_without_entries later).imp_left fun own => Or.inr (Or.inr own)

end

theorem without_of_apart {gone : List (Nat × String)} {datum : LiveDatum}
    (apart : ∀ slot ∈ datum.slots, slot ∉ gone) : datum.without gone = datum := by
  have unmet : ∀ slot ∈ datum.slots, slot ∈ gone ↔ slot ∈ [] := fun slot member =>
    iff_of_false (apart slot member) List.not_mem_nil
  rw [without_congr unmet, without_nil]

/-! ## Parts -/

theorem ok_of_elim {α β : Type} {item : Option α} {fault : Fault} {next : α → Except Fault β}
    {result : β} (ran : item.elim (.error fault) next = .ok result) :
    ∃ own, item = some own ∧ next own = .ok result := by
  cases item with
  | none => cases ran
  | some own => exact ⟨own, rfl, ran⟩

theorem slots_item {items : List LiveDatum} {item : LiveDatum} (there : item ∈ items) :
    item.slots ⊆ slotsOfItems items := by
  induction items with
  | nil => cases there
  | cons own rest induction =>
      rw [slotsOfItems]
      rcases List.mem_cons.mp there with first | later
      · exact first ▸ List.subset_append_left _ _
      · exact List.Subset.trans (induction later) (List.subset_append_right _ _)

theorem slots_entry {key : String} {entries : List (String × LiveDatum)} {item : LiveDatum}
    (there : item? key entries = some item) (number : Nat) :
    (number, key) ∈ slotsOfEntries number entries ∧ item.slots ⊆ slotsOfEntries number entries := by
  induction entries with
  | nil => cases there
  | cons own rest induction =>
      rw [item?] at there
      rw [slotsOfEntries]
      by_cases same : own.1 = key
      · rw [if_pos same] at there
        cases there
        rw [← same]
        exact ⟨List.mem_cons_self, fun slot member =>
          List.mem_cons_of_mem _ (List.mem_append_left _ member)⟩
      · rw [if_neg same] at there
        obtain ⟨found, deeper⟩ := induction there
        exact ⟨List.mem_cons_of_mem _ (List.mem_append_right _ found), fun slot member =>
          List.mem_cons_of_mem _ (List.mem_append_right _ (deeper member))⟩

theorem slots_part {datum part : LiveDatum} {selector : Selector}
    (found : datum.part selector = .ok part) : part.slots ⊆ datum.slots := by
  unfold LiveDatum.part at found
  split at found
  · rename_i number entries name
    obtain ⟨item, there, ⟨⟩⟩ := ok_of_elim found
    exact (slots_entry there number).2
  · cases found
  · obtain ⟨item, there, ⟨⟩⟩ := ok_of_elim found
    exact slots_item (List.mem_of_getElem? there)
  · obtain ⟨c, _, ⟨⟩⟩ := ok_of_elim found
    exact List.nil_subset _
  · cases found

theorem slots_reach {datum part : LiveDatum} {way : List Selector}
    (found : datum.reach way = .ok part) : part.slots ⊆ datum.slots := by
  induction way generalizing datum with
  | nil =>
      cases found
      exact List.Subset.refl _
  | cons selector rest induction =>
      obtain ⟨own, step, deeper⟩ := Run.except_bind_ok found
      exact List.Subset.trans (induction deeper) (slots_part step)

theorem slots_loses {datum : LiveDatum} {key : String} {number : Nat}
    (loses : datum.loses key = .ok number) : (number, key) ∈ datum.slots := by
  cases datum with
  | leaf datum => cases loses
  | list items => cases loses
  | mapping own entries =>
      obtain ⟨item, there, ⟨⟩⟩ := ok_of_elim loses
      exact (slots_entry there number).1

theorem slots_insert {key : String} {item : LiveDatum} {entries : List (String × LiveDatum)}
    {number : Nat} (member : slot ∈ slotsOfEntries number (insertEntry key item entries)) :
    slot.1 = number ∨ slot ∈ item.slots ∨ slot ∈ slotsOfEntries number entries := by
  induction entries with
  | nil =>
      rw [insertEntry, slotsOfEntries, slotsOfEntries, List.append_nil, List.mem_cons] at member
      exact member.imp (congrArg Prod.fst) Or.inl
  | cons own rest induction =>
      rw [insertEntry] at member
      rw [slotsOfEntries, List.mem_cons, List.mem_append]
      split at member
      · rw [slotsOfEntries, List.mem_cons, List.mem_append] at member
        rcases member with first | deeper | later
        · exact Or.inl (congrArg Prod.fst first)
        · exact Or.inr (Or.inl deeper)
        · exact Or.inr (Or.inr (Or.inr (Or.inr later)))
      · rw [slotsOfEntries, List.mem_cons, List.mem_append] at member
        rcases member with first | deeper | later
        · exact Or.inr (Or.inr (Or.inl first))
        · exact Or.inr (Or.inr (Or.inr (Or.inl deeper)))
        · exact (induction later).imp_right (Or.imp_right fun old => Or.inr (Or.inr old))

end LiveDatum

end DocumentRules
