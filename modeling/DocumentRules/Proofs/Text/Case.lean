import DocumentRules.Text.Case

/-!
What ignoring case does to the plain characters, those of seven bits. The sources of a
lowercase character are all characters with that lowercase form, and a plain character is
never another one's source through the table. Only `i` and `s` share their uppercase form
with a character that is not plain.
-/

set_option autoImplicit false

namespace DocumentRules.Text

theorem source_of_image {run : CaseRun} {code target : Nat} (image : run.image? code = some target)
    (positive : 0 < target) : run.source? target = some code := by
  have inside := image
  rw [CaseRun.image?] at inside
  split at inside
  · have back : ((target : Int) - run.shift).toNat = code := by
      have shifted := Option.some.inj inside
      omega
    simp [CaseRun.source?, back, image]
  · cases inside

/-- A character is among the sources of its lowercase form. -/
theorem mem_lower_sources {code lowered : Nat} (lower : lowerOf code = lowered)
    (positive : 0 < lowered) : code ∈ lowerSources lowered := by
  have itself (same : lowered = code) : code ∈ lowerSources lowered := by
    subst same
    simp [lowerSources, lower]
  by_cases plain : code < 128
  · rw [lowerOf, if_pos plain, plainLower] at lower
    split at lower
    · rename_i upper
      simp only [Bool.and_eq_true, decide_eq_true_eq] at upper
      have letter : (97 ≤ lowered && lowered ≤ 122) = true := by
        simp only [Bool.and_eq_true, decide_eq_true_eq]
        omega
      have back : code = lowered - 32 := by omega
      simp only [lowerSources, letter, if_true, List.mem_append, List.mem_singleton]
      exact Or.inl (Or.inr back)
    · exact itself lower.symm
  · rw [lowerOf, if_neg plain] at lower
    cases found : lowerRuns.findSome? fun run => run.image? code with
    | none =>
        rw [found] at lower
        exact itself lower.symm
    | some target =>
        rw [found] at lower
        change target = lowered at lower
        subst lower
        obtain ⟨run, listed, image⟩ := List.exists_of_findSome?_eq_some found
        rw [lowerSources, List.mem_append]
        exact Or.inr (List.mem_filterMap.mpr ⟨run, listed, source_of_image image positive⟩)

theorem lower_runs_beyond : ∀ run ∈ lowerRuns, 128 ≤ run.first := by decide +kernel

/-- A plain character has those lowercase characters as images that it has among the plain ones. -/
theorem lower_of_plain_source {code lowered : Nat} (plain : code < 128)
    (source : code ∈ lowerSources lowered) : plainLower code = lowered := by
  simp only [lowerSources, List.mem_append, List.mem_filterMap] at source
  rcases source with (own | letter) | ⟨run, listed, back⟩
  · split at own
    · rename_i stays
      have same := List.mem_singleton.mp own
      subst same
      simpa [lowerOf, plain] using stays
    · cases own
  · split at letter
    · rename_i lower
      simp only [Bool.and_eq_true, decide_eq_true_eq] at lower
      have same := List.mem_singleton.mp letter
      have upper : (65 ≤ code && code ≤ 90) = true := by
        simp only [Bool.and_eq_true, decide_eq_true_eq]
        omega
      rw [plainLower, if_pos upper]
      omega
    · cases letter
  · have beyond := lower_runs_beyond run listed
    rw [CaseRun.source?] at back
    split at back
    · rename_i image
      have same := Option.some.inj back
      rw [same, CaseRun.image?] at image
      split at image
      · rename_i inside
        simp only [Bool.and_eq_true, decide_eq_true_eq] at inside
        omega
      · cases image
    · cases back

theorem plain_kin_families : ∀ family ∈ sharedUppercase, ∀ code ∈ family, code < 128 →
    ∀ lowered ∈ family, lowered ∈ [105, 305, 115, 383] := by decide +kernel

theorem plain_kin {code lowered : Nat} (plain : code < 128) (kin : code ∈ lowerKin lowered) :
    lowered ∈ [105, 305, 115, 383] := by
  rw [lowerKin] at kin
  split at kin
  · rename_i family found
    have listed := List.mem_of_find?_eq_some found
    have own : lowered ∈ family := by simpa using List.find?_some found
    exact plain_kin_families family listed code ((List.mem_filter.mp kin).1) plain lowered own
  · cases kin

end DocumentRules.Text
