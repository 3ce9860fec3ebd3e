import DocumentRules.Proofs.Text.Parts
import DocumentRules.Rule.Table

/-!
Keys and the paths they spell. The path of a key is never empty; it is a lone sign for
every element only for the two spellings of that sign, and it is the lone empty name only
for the empty key.
-/

set_option autoImplicit false

namespace DocumentRules

open Text

namespace Segment

theorem of_name_every (name : String) : ofName name = .every ↔ name = "$" ∨ name = "[]" := by
  rw [ofName]
  split
  · rename_i sign
    have either : name = "[]" ∨ name = "$" := by simpa using sign
    simpa using either.symm
  · rename_i plain
    simp only [Bool.or_eq_true, decide_eq_true_eq, not_or] at plain
    simp [plain.1, plain.2]

theorem of_name_field {name field : String} (named : ofName name = .field field) :
    name = field ∧ name ≠ "[]" ∧ name ≠ "$" := by
  rw [ofName] at named
  split at named
  · simp at named
  · rename_i plain
    simp only [Bool.or_eq_true, decide_eq_true_eq, not_or] at plain
    exact ⟨by simpa using named, plain.1, plain.2⟩

end Segment

namespace Path

theorem of_key_nonempty (key : String) : ofKey key ≠ [] := by
  simp [ofKey, cut_at_nonempty]

theorem of_key_single {key : String} {segment : Segment} (single : ofKey key = [segment]) :
    Segment.ofName key = segment := by
  rw [ofKey, List.map_eq_singleton_iff] at single
  obtain ⟨part, cut, named⟩ := single
  have whole := eq_of_cut_at_singleton cut
  rwa [← whole, String.ofList_toList] at named

theorem of_key_plain {key : String} (plain : '.' ∉ key.toList) :
    ofKey key = [Segment.ofName key] := by
  rw [ofKey, cut_at_whole plain]
  simp

theorem of_key_append (left right : String) :
    ofKey (left ++ "." ++ right) = ofKey left ++ ofKey right := by
  have point : (left ++ "." ++ right).toList = left.toList ++ '.' :: right.toList := by
    simp [String.toList_append]
  rw [ofKey, point, cut_at_append, List.map_append]
  rfl

theorem of_key_every (key : String) : ofKey key = [.every] ↔ key = "$" ∨ key = "[]" := by
  constructor
  · intro single
    exact (Segment.of_name_every key).mp (of_key_single single)
  · intro sign
    rcases sign with rfl | rfl
    · rw [of_key_plain (by decide)]
      rfl
    · rw [of_key_plain (by decide)]
      rfl

theorem of_key_empty_name {key : String} (nameless : ofKey key = [.field ""]) : key = "" :=
  (Segment.of_name_field (of_key_single nameless)).1

/-- The path of a field in its container: none for the container itself. -/
def ofField (key : String) : Path := if key = "$" ∨ key = "[]" then [] else ofKey key

theorem extend_of_field (origin : Path) (key : String) :
    origin.extend key = origin ++ ofField key := by
  rw [extend, ofField]
  by_cases lone : key = "$" ∨ key = "[]"
  · rw [if_pos lone, if_pos ((of_key_every key).mpr lone), List.append_nil]
  · rw [if_neg lone, if_neg (fun every => lone ((of_key_every key).mp every))]

end Path

end DocumentRules
