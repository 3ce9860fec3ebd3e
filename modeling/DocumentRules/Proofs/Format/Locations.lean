import DocumentRules.Proofs.Format.Addresses
import DocumentRules.Proofs.Text.Spans

/-!
Web addresses are single lines. A scheme is one of three words, a user and a password hold no
blanks, a host is a word, a row of labels or a row of numbers, and a resource holds no blanks;
the parts are all that there is of the address.
-/

set_option autoImplicit false

namespace DocumentRules.Format

open Text

/-- The form of a web address. -/
def isWebLine (line : List Char) : Bool :=
  (afterScheme? line).any fun rest => isLocation rest || (afterUser? rest).any isLocation

theorem web_address_line (text : List Char) : isWebAddress text = isWebLine (lineOf text) := by
  rw [isWebAddress, isWebLine]
  cases afterScheme? (lineOf text) <;> rfl

def schemes : List String := ["http://", "https://", "ftp://"]

theorem scheme_split {line rest : List Char} (ran : afterScheme? line = some rest) :
    ∃ scheme ∈ schemes, line = scheme.toList ++ rest := by
  rw [afterScheme?.eq_def] at ran
  split at ran
  · rw [Option.some.injEq] at ran
    exact ⟨"http://", by decide, by rw [ran]; rfl⟩
  · rw [Option.some.injEq] at ran
    exact ⟨"https://", by decide, by rw [ran]; rfl⟩
  · rw [Option.some.injEq] at ran
    exact ⟨"ftp://", by decide, by rw [ran]; rfl⟩
  · cases ran

theorem numeric_host_not_feed {host : List Char} (numeric : isNumericHost host = true) :
    '\n' ∉ host := by
  simp only [isNumericHost, isAddressNumber, isRun, Bool.and_eq_true, List.all_eq_true] at numeric
  intro member
  rw [← joined_cut_at '.' host] at member
  rcases mem_joined member with between | ⟨part, listed, inside⟩
  · exact absurd (List.mem_singleton.mp between) (by decide)
  · exact not_mem_of_refused (numeric.2 part listed).1.2 (by decide) inside

theorem host_not_feed {host : List Char} (accepted : isHost host = true) : '\n' ∉ host := by
  simp only [isHost, Bool.or_eq_true, beq_iff_eq, is_host_name_iff] at accepted
  rcases accepted with (word | labels) | numeric
  · rw [word]
    decide
  · exact labels.not_mem (by decide) (by decide) (by decide)
  · exact numeric_host_not_feed numeric

theorem resource_not_feed {text : List Char} (accepted : isResource text = true) :
    '\n' ∉ text := by
  cases text with
  | nil => exact List.not_mem_nil
  | cons c rest =>
      simp only [isResource, Bool.and_eq_true, List.all_eq_true] at accepted
      intro member
      rcases List.mem_cons.mp member with first | later
      · rw [← first] at accepted
        exact absurd accepted.1.2 (by decide)
      · exact not_mem_of_refused accepted.2 (by decide) later

theorem numbered_resource_not_feed {text : List Char} (accepted : isNumberedResource text = true) :
    '\n' ∉ text := by
  rw [isNumberedResource.eq_def] at accepted
  split at accepted
  · rename_i rest
    simp only [Bool.and_eq_true] at accepted
    have digits : ∀ c ∈ rest.takeWhile isAnyDigit, isAnyDigit c = true :=
      List.all_eq_true.mp List.all_takeWhile
    have split := List.prefix_iff_eq_append.mp (List.takeWhile_prefix (l := rest) isAnyDigit)
    have number := not_mem_of_refused (c := '\n') digits (by decide)
    have resource := resource_not_feed accepted.2
    rw [← split]
    simp [number, resource]
  · exact resource_not_feed accepted

theorem location_not_feed {text : List Char} (accepted : isLocation text = true) : '\n' ∉ text := by
  rw [isLocation, Bool.and_eq_true] at accepted
  rw [← List.takeWhile_append_dropWhile (p := fun c => !endsHost c) (l := text)]
  intro member
  rcases List.mem_append.mp member with host | resource
  · exact host_not_feed accepted.1 host
  · exact numbered_resource_not_feed accepted.2 resource

/-- What a user leaves over stands behind a text without line feeds. -/
theorem user_split {text rest : List Char} (ran : afterUser? text = some rest) :
    ∃ user, text = user ++ rest ∧ '\n' ∉ user := by
  obtain ⟨name, nameChars, nameSplit⟩ := span_cut isUserChar text
  have cleanName := not_mem_of_refused (c := '\n') nameChars (by decide)
  rw [afterUser?.eq_def] at ran
  dsimp only at ran
  rw [Option.ite_none_left_eq_some] at ran
  have behind := ran.2
  split at behind
  · rename_i later sign
    rw [Option.some.injEq] at behind
    rw [sign, behind] at nameSplit
    exact ⟨name ++ ['@'], by rw [nameSplit]; simp, by simp [cleanName]⟩
  · rename_i secret colon
    obtain ⟨password, passwordChars, passwordSplit⟩ := span_cut isUserChar secret
    have cleanPassword := not_mem_of_refused (c := '\n') passwordChars (by decide)
    split at behind
    · rename_i later sign
      rw [Option.some.injEq] at behind
      rw [sign, behind] at passwordSplit
      rw [colon, passwordSplit] at nameSplit
      refine ⟨name ++ ':' :: (password ++ ['@']), by rw [nameSplit]; simp, ?_⟩
      simp [cleanName, cleanPassword]
    · cases behind
  · cases behind

theorem web_line_not_feed {line : List Char} (accepted : isWebLine line = true) : '\n' ∉ line := by
  simp only [isWebLine, Option.any_eq_true, Bool.or_eq_true] at accepted
  obtain ⟨rest, ran, located⟩ := accepted
  have behind : '\n' ∉ rest := by
    rcases located with direct | ⟨later, user, location⟩
    · exact location_not_feed direct
    · obtain ⟨before, split, clean⟩ := user_split user
      have inner := location_not_feed location
      rw [split]
      simp [clean, inner]
  obtain ⟨scheme, listed, split⟩ := scheme_split ran
  have clean : ∀ word ∈ schemes, '\n' ∉ word.toList := by decide
  rw [split]
  simp [clean scheme listed, behind]

end DocumentRules.Format
