import DocumentRules.Format.Uuid
import DocumentRules.Proofs.Number.Hexadecimal
import Mathlib.Data.List.Nodup
import Mathlib.Data.List.Perm.Subperm

/-!
Which texts are taken for universally unique identifiers. They have 36 characters, of which 32
make a number of base sixteen; the other four are hyphens anywhere and braces around the text,
or the mark `urn:`. The canonical form has its hyphens at four fixed places and digits
everywhere else, and is always taken; no other text of hexadecimal digits with hyphens at these
places is.
-/

set_option autoImplicit false

namespace DocumentRules.Format

open Number Text

/-! ## Taking out marks -/

theorem without_mark_pending (mark : List Char) (pending : Nat) (text : List Char) :
    withoutMark mark pending text = withoutMark mark 0 (text.drop pending) := by
  induction pending generalizing text with
  | zero => rfl
  | succ pending induction =>
      cases text with
      | nil => rfl
      | cons c rest => rw [withoutMark, induction, List.drop_succ_cons]

theorem without_mark_length (mark : List Char) (pending : Nat) (text : List Char) :
    (withoutMark mark pending text).length ≤ text.length := by
  induction text generalizing pending with
  | nil => cases pending <;> simp [withoutMark]
  | cons c rest induction =>
      cases pending with
      | zero =>
          rw [withoutMark]
          split
          · exact Nat.le_succ_of_le (induction _)
          · exact Nat.succ_le_succ (induction 0)
      | succ pending =>
          rw [withoutMark]
          exact Nat.le_succ_of_le (induction pending)

theorem without_mark_here (first : Char) (others rest : List Char) :
    withoutMark (first :: others) 0 (first :: others ++ rest) =
      withoutMark (first :: others) 0 rest := by
  have begins : (first :: others).isPrefixOf (first :: others ++ rest) = true :=
    List.isPrefixOf_iff_prefix.mpr (List.prefix_append _ _)
  rw [List.cons_append] at begins ⊢
  rw [withoutMark, if_pos begins, without_mark_pending, List.length_cons, Nat.add_sub_cancel,
    List.drop_left]

/-- A mark does not begin with a character that it does not hold in front. -/
theorem without_mark_clean (first : Char) (others : List Char) {text : List Char}
    (clean : first ∉ text) (rest : List Char) :
    withoutMark (first :: others) 0 (text ++ rest) =
      text ++ withoutMark (first :: others) 0 rest := by
  induction text with
  | nil => rfl
  | cons c text induction =>
      have other : first ≠ c := List.ne_of_not_mem_cons clean
      have elsewhere : ¬(first :: others).isPrefixOf (c :: (text ++ rest)) = true := by
        simp [other]
      rw [List.cons_append, withoutMark, if_neg elsewhere,
        induction (List.not_mem_of_not_mem_cons clean), List.cons_append]

theorem without_mark_absent (first : Char) (others : List Char) {text : List Char}
    (clean : first ∉ text) : withoutMark (first :: others) 0 text = text := by
  have whole := without_mark_clean first others clean []
  simpa [withoutMark] using whole

/-- Either the mark does not occur, or the text is cut at its first occurrence. -/
theorem without_mark_cases (first : Char) (others text : List Char) :
    withoutMark (first :: others) 0 text = text ∨
      ∃ before after, text = before ++ (first :: others ++ after) ∧
        withoutMark (first :: others) 0 text = before ++ withoutMark (first :: others) 0 after := by
  induction text with
  | nil => exact Or.inl rfl
  | cons c rest induction =>
      by_cases begins : (first :: others).isPrefixOf (c :: rest) = true
      · right
        obtain ⟨after, split⟩ := List.isPrefixOf_iff_prefix.mp begins
        refine ⟨[], after, split.symm, ?_⟩
        rw [← split, without_mark_here, List.nil_append]
      · rw [withoutMark, if_neg begins]
        rcases induction with same | ⟨before, after, split, cut⟩
        · left
          rw [same]
        · right
          refine ⟨c :: before, after, ?_, ?_⟩
          · exact congrArg (List.cons c) split
          · rw [cut, List.cons_append]

/-- Taking out a mark leaves the text as it is or makes it shorter by the mark. -/
theorem without_mark_shrinks (first : Char) (others text : List Char) :
    withoutMark (first :: others) 0 text = text ∨
      (withoutMark (first :: others) 0 text).length + (others.length + 1) ≤ text.length := by
  rcases without_mark_cases first others text with same | ⟨before, after, split, cut⟩
  · exact Or.inl same
  · right
    have shorter := without_mark_length (first :: others) 0 after
    have length := congrArg List.length split
    simp only [List.length_append, List.length_cons] at length
    rw [cut, List.length_append]
    omega

/-- A text that stays too long to have lost the mark is left as it is. -/
theorem without_mark_kept (first : Char) (others text : List Char)
    (long : text.length ≤ (withoutMark (first :: others) 0 text).length + others.length) :
    withoutMark (first :: others) 0 text = text := by
  rcases without_mark_shrinks first others text with same | shorter
  · exact same
  · omega

/-! ## Taking off braces -/

def AreBraces (text : List Char) : Prop := ∀ c ∈ text, c = '{' ∨ c = '}'

theorem is_brace_iff (c : Char) : isBrace c = true ↔ c = '{' ∨ c = '}' := by
  simp [isBrace]

theorem no_braces {text : List Char} (noOpening : '{' ∉ text) (noClosing : '}' ∉ text) :
    ∀ c ∈ text, isBrace c = false := by
  intro c member
  rw [Bool.eq_false_iff, ne_eq, is_brace_iff]
  intro brace
  rcases brace with opening | closing
  · rw [opening] at member
    exact noOpening member
  · rw [closing] at member
    exact noClosing member

theorem braces_before (text : List Char) :
    ∃ front, AreBraces front ∧ text = front ++ text.dropWhile isBrace := by
  obtain ⟨front, braces, split⟩ := span_cut isBrace text
  refine ⟨front, ?_, split⟩
  intro c member
  exact (is_brace_iff c).mp (braces c member)

theorem outer_braces_split (text : List Char) :
    ∃ front back, AreBraces front ∧ AreBraces back ∧
      text = front ++ (withoutOuterBraces text ++ back) := by
  obtain ⟨front, frontBraces, split⟩ := braces_before text
  obtain ⟨back, backBraces, again⟩ := braces_before (text.dropWhile isBrace).reverse
  refine ⟨front, back.reverse, frontBraces, ?_, ?_⟩
  · intro c member
    exact backBraces c (List.mem_reverse.mp member)
  · have inner : text.dropWhile isBrace = withoutOuterBraces text ++ back.reverse := by
      rw [withoutOuterBraces, ← List.reverse_append, ← again, List.reverse_reverse]
    rw [← inner]
    exact split

theorem drop_braces {front : List Char} (braces : AreBraces front) {rest : List Char}
    (clean : ∀ c, rest.head? = some c → isBrace c = false) :
    (front ++ rest).dropWhile isBrace = rest := by
  apply drop_span _ clean
  intro c member
  exact (is_brace_iff c).mpr (braces c member)

/-- Braces around a text that holds none are taken off. -/
theorem without_outer_braces {front middle back : List Char} (frontBraces : AreBraces front)
    (backBraces : AreBraces back) (clean : ∀ c ∈ middle, isBrace c = false)
    (filled : middle ≠ []) : withoutOuterBraces (front ++ (middle ++ back)) = middle := by
  have first : ∀ c, (middle ++ back).head? = some c → isBrace c = false := by
    intro c head
    cases middle with
    | nil => exact absurd rfl filled
    | cons own rest =>
        rw [List.cons_append, List.head?_cons, Option.some.injEq] at head
        rw [← head]
        exact clean own List.mem_cons_self
  have last : ∀ c, middle.reverse.head? = some c → isBrace c = false := by
    intro c head
    exact clean c (List.mem_reverse.mp (List.mem_of_head? head))
  have behind : AreBraces back.reverse := by
    intro c member
    exact backBraces c (List.mem_reverse.mp member)
  rw [withoutOuterBraces, drop_braces frontBraces first, List.reverse_append,
    drop_braces behind last, List.reverse_reverse]

/-! ## Accepted texts -/

/-- How a text is made of a number: with the mark inside, or with hyphens anywhere and braces
around. -/
inductive Spells (number : List Char) : List Char → Prop
  | marked (before after : List Char) (parts : before ++ after = number) :
      Spells number (before ++ ("urn:".toList ++ after))
  | enclosed (front middle back : List Char) (frontBraces : AreBraces front)
      (backBraces : AreBraces back) (digits : (middle.filter fun c => c != '-') = number) :
      Spells number (front ++ (middle ++ back))

theorem unmarked_digits {text : List Char} (clean : 'u' ∉ text) :
    uuidDigits text = (withoutOuterBraces text).filter fun c => c != '-' := by
  have short : withoutMark "urn:".toList 0 text = text :=
    without_mark_absent 'u' ['r', 'n', ':'] clean
  have long : withoutMark "uuid:".toList 0 text = text :=
    without_mark_absent 'u' ['u', 'i', 'd', ':'] clean
  rw [uuidDigits]
  simp only [short, long]

/-- A mark inside makes no difference. -/
theorem marked_digits {before after : List Char} (clean : 'u' ∉ before ++ after) :
    uuidDigits (before ++ ("urn:".toList ++ after)) = uuidDigits (before ++ after) := by
  have front : 'u' ∉ before := mt (List.mem_append_left after) clean
  have cut : withoutMark "urn:".toList 0 (before ++ ("urn:".toList ++ after)) =
      withoutMark "urn:".toList 0 (before ++ after) := by
    change withoutMark ('u' :: ['r', 'n', ':']) 0 (before ++ ('u' :: ['r', 'n', ':'] ++ after)) =
      withoutMark ('u' :: ['r', 'n', ':']) 0 (before ++ after)
    rw [without_mark_clean _ _ front, without_mark_here, without_mark_clean _ _ front]
  rw [uuidDigits, uuidDigits]
  simp only [cut]

/-- No brace is the first letter of a mark, and neither is a hyphen or a character of a number. -/
theorem enclosed_unmarked {number front middle back : List Char} (written : IsHexText number)
    (frontBraces : AreBraces front) (backBraces : AreBraces back)
    (inside : ∀ c ∈ middle, c = '-' ∨ c ∈ number) : 'u' ∉ front ++ (middle ++ back) := by
  intro member
  simp only [List.mem_append] at member
  rcases member with inFront | inMiddle | inBack
  · exact absurd (frontBraces 'u' inFront) (by decide)
  · rcases inside 'u' inMiddle with hyphen | inNumber
    · exact absurd hyphen (by decide)
    · exact not_mem_hex_text written (by decide) (by decide) inNumber
  · exact absurd (backBraces 'u' inBack) (by decide)

theorem enclosed_digits {number front middle back : List Char} (written : IsHexText number)
    (filled : number ≠ []) (frontBraces : AreBraces front) (backBraces : AreBraces back)
    (digits : (middle.filter fun c => c != '-') = number) :
    uuidDigits (front ++ (middle ++ back)) = number := by
  have inside : ∀ c ∈ middle, c = '-' ∨ c ∈ number := by
    intro c member
    by_cases hyphen : c = '-'
    · exact Or.inl hyphen
    · right
      rw [← digits]
      exact List.mem_filter.mpr ⟨member, by simpa using hyphen⟩
  have plain : ∀ c ∈ middle, isBrace c = false := by
    apply no_braces
    · intro member
      exact (inside _ member).elim (by decide) (not_mem_hex_text written (by decide) (by decide))
    · intro member
      exact (inside _ member).elim (by decide) (not_mem_hex_text written (by decide) (by decide))
  have some : middle ≠ [] := by
    intro none
    rw [none] at digits
    exact filled digits.symm
  rw [unmarked_digits (enclosed_unmarked written frontBraces backBraces inside),
    without_outer_braces frontBraces backBraces plain some, digits]

theorem digits_of_spelled {number text : List Char} (written : IsHexText number)
    (unsigned : '-' ∉ number) (filled : number ≠ []) (spelled : Spells number text) :
    uuidDigits text = number := by
  cases spelled with
  | marked before after parts =>
      have clean : 'u' ∉ before ++ after := by
        rw [parts]
        exact not_mem_hex_text written (by decide) (by decide)
      have noBraces : AreBraces [] := by simp [AreBraces]
      have whole : (number.filter fun c => c != '-') = number := by
        apply List.filter_eq_self.mpr
        intro c member
        have other : c ≠ '-' := by
          intro same
          rw [same] at member
          exact unsigned member
        simpa using other
      have digits := enclosed_digits written filled noBraces noBraces whole
      rw [List.nil_append, List.append_nil] at digits
      rw [marked_digits clean, parts, digits]
  | enclosed front middle back frontBraces backBraces digits =>
      exact enclosed_digits written filled frontBraces backBraces digits

theorem digits_sublist (unmarked : List Char) :
    ((withoutOuterBraces unmarked).filter fun c => c != '-').Sublist unmarked := by
  apply List.filter_sublist.trans
  have inner := (List.dropWhile_sublist isBrace (l := (unmarked.dropWhile isBrace).reverse)).reverse
  rw [List.reverse_reverse] at inner
  exact inner.trans (List.dropWhile_sublist isBrace)

/-- Where 32 of 36 characters are left, the longer of the two marks was not taken out. -/
theorem longer_mark_kept {text : List Char} (long : text.length = 36)
    (digits : (uuidDigits text).length = 32) :
    withoutMark "uuid:".toList 0 (withoutMark "urn:".toList 0 text) =
      withoutMark "urn:".toList 0 text := by
  have fewer := without_mark_length "urn:".toList 0 text
  have within : (uuidDigits text).length ≤ _ := (digits_sublist _).length_le
  apply without_mark_kept 'u' ['u', 'i', 'd', ':']
  change _ ≤ (withoutMark "uuid:".toList 0 (withoutMark "urn:".toList 0 text)).length + 4
  omega

/-- Of a text with 36 characters that names 32 digits, four characters go: those of one mark
`urn:`, or braces and hyphens. -/
theorem spelled_of_digits {text : List Char} (long : text.length = 36)
    (digits : (uuidDigits text).length = 32) : Spells (uuidDigits text) text := by
  have own : uuidDigits text =
      (withoutOuterBraces (withoutMark "urn:".toList 0 text)).filter fun c => c != '-' := by
    rw [uuidDigits]
    simp only [longer_mark_kept long digits]
  have sublist := digits_sublist (withoutMark "urn:".toList 0 text)
  rw [← own] at sublist
  rcases without_mark_cases 'u' ['r', 'n', ':'] text with same | ⟨before, after, split, cut⟩
  · change withoutMark "urn:".toList 0 text = text at same
    rw [same] at own
    obtain ⟨front, back, frontBraces, backBraces, parts⟩ := outer_braces_split text
    have spelled := Spells.enclosed front (withoutOuterBraces text) back frontBraces backBraces rfl
    rw [← parts, ← own] at spelled
    exact spelled
  · change withoutMark "urn:".toList 0 text = before ++ withoutMark "urn:".toList 0 after at cut
    rw [cut] at sublist
    have within := sublist.length_le
    have lengths := congrArg List.length split
    simp only [List.length_append, List.length_cons, List.length_nil] at within lengths
    -- One mark takes all four characters, so there is no second.
    have rest : withoutMark "urn:".toList 0 after = after := by
      apply without_mark_kept 'u' ['r', 'n', ':']
      change after.length ≤ (withoutMark "urn:".toList 0 after).length + 3
      omega
    rw [rest] at sublist
    have parts : uuidDigits text = before ++ after := by
      apply sublist.eq_of_length
      rw [List.length_append]
      omega
    have spelled := Spells.marked before after parts.symm
    rw [split] at spelled ⊢
    exact spelled

/-- A text of 36 characters that spells a number of 32. -/
def IsIdentifier (text : List Char) : Prop :=
  text.length = 36 ∧
    ∃ number, IsHexText number ∧ '-' ∉ number ∧ number.length = 32 ∧ Spells number text

theorem digits_unsigned (text : List Char) : '-' ∉ uuidDigits text := by
  simp [uuidDigits]

theorem largest_number : Int.pow 2 128 = (Nat.pow 16 32 : Nat) := by decide +kernel

theorem is_uuid_iff_read (text : List Char) :
    isUuid text = true ↔ text.length = 36 ∧ (uuidDigits text).length = 32 ∧
      (Number.readInteger 16 (uuidDigits text)).isSome = true := by
  simp only [isUuid, Bool.and_eq_true, beq_iff_eq, and_assoc]
  apply and_congr_right
  intro _
  apply and_congr_right
  intro length
  cases ran : Number.readInteger 16 (uuidDigits text) with
  | none => simp
  | some value =>
      obtain ⟨magnitude, same, below⟩ := read_hex_bounds (digits_unsigned text) ran
      rw [length] at below
      simp only [Option.isSome_some, decide_eq_true_eq, Bool.and_eq_true, iff_true]
      rw [largest_number, same]
      omega

theorem is_uuid_iff (text : List Char) : isUuid text = true ↔ IsIdentifier text := by
  rw [is_uuid_iff_read, read_hex_iff _ (digits_unsigned text), IsIdentifier]
  apply and_congr_right
  intro long
  constructor
  · rintro ⟨length, written⟩
    exact ⟨_, written, digits_unsigned text, length, spelled_of_digits long length⟩
  · rintro ⟨number, written, unsigned, length, spelled⟩
    have filled : number ≠ [] := List.length_pos_iff.mp (by omega)
    rw [digits_of_spelled written unsigned filled spelled]
    exact ⟨length, written⟩

/-! ## The canonical form -/

def hyphenPlaces : List Nat := [8, 13, 18, 23]

def HasHyphensInPlace (text : List Char) : Prop := ∀ place ∈ hyphenPlaces, text[place]? = some '-'

/-- Hyphens at four places, and digits at all others. -/
structure IsCanonical (text : List Char) : Prop where
  length : text.length = 36
  hyphens : HasHyphensInPlace text
  digits : ∀ place c, place ∉ hyphenPlaces → text[place]? = some c → IsHexDigit c

theorem hyphen_place_iff (text : List Char) (place : Nat) :
    place ∈ text.findIdxs (· == '-') ↔ text[place]? = some '-' := by
  rw [List.mem_findIdxs_iff_exists_getElem_pos]
  simp [List.getElem?_eq_some_iff]

/-- The characters of a text are hyphens and others. -/
theorem hyphens_and_others (text : List Char) :
    (text.filter fun c => c != '-').length + (text.findIdxs (· == '-')).length = text.length := by
  have parts := List.length_eq_length_filter_add (l := text) (fun c => c != '-')
  have same : (text.filter fun c => !(c != '-')) = text.filter (· == '-') := by
    simp [bne]
  rw [List.length_findIdxs, List.countP_eq_length_filter]
  rw [same] at parts
  exact parts.symm

/-- With four hyphens in place, a text of 36 characters has 32 others when it has no more. -/
theorem others_counted {text : List Char} (long : text.length = 36)
    (hyphens : HasHyphensInPlace text) :
    (text.filter fun c => c != '-').length = 32 ↔
      ∀ place, text[place]? = some '-' → place ∈ hyphenPlaces := by
  have parts := hyphens_and_others text
  have listed : hyphenPlaces ⊆ text.findIdxs (· == '-') := by
    intro place member
    exact (hyphen_place_iff text place).mpr (hyphens place member)
  have distinct : hyphenPlaces.Nodup := by decide
  have four : hyphenPlaces.length = 4 := rfl
  have subperm := List.subperm_of_subset distinct listed
  constructor
  · intro count place found
    have perm := subperm.perm_of_length_le (by omega)
    exact perm.mem_iff.mpr ((hyphen_place_iff text place).mpr found)
  · intro only
    have back : text.findIdxs (· == '-') ⊆ hyphenPlaces := by
      intro place member
      exact only place ((hyphen_place_iff text place).mp member)
    have fewer := (List.subperm_of_subset List.nodup_findIdxs back).length_le
    have more := subperm.length_le
    omega

/-- Of digits and hyphens the digits are read. -/
theorem digits_of_bare {text : List Char} (chars : ∀ c ∈ text, c = '-' ∨ IsHexDigit c)
    (filled : text ≠ []) : uuidDigits text = text.filter fun c => c != '-' := by
  have unmarked : 'u' ∉ text := by
    intro member
    exact absurd (chars 'u' member) (by decide)
  have plain : ∀ c ∈ text, isBrace c = false := by
    apply no_braces
    · intro member
      exact absurd (chars _ member) (by decide)
    · intro member
      exact absurd (chars _ member) (by decide)
  have noBraces : AreBraces [] := by simp [AreBraces]
  have bare := without_outer_braces noBraces noBraces plain filled
  rw [List.nil_append, List.append_nil] at bare
  rw [unmarked_digits unmarked, bare]

namespace IsCanonical

variable {text : List Char}

theorem chars (canonical : IsCanonical text) : ∀ c ∈ text, c = '-' ∨ IsHexDigit c := by
  intro c member
  obtain ⟨place, found⟩ := List.mem_iff_getElem?.mp member
  by_cases listed : place ∈ hyphenPlaces
  · left
    exact Option.some.inj (found.symm.trans (canonical.hyphens place listed))
  · exact Or.inr (canonical.digits place c listed found)

theorem only_in_place (canonical : IsCanonical text) (place : Nat)
    (found : text[place]? = some '-') : place ∈ hyphenPlaces := by
  by_contra other
  exact absurd (canonical.digits place '-' other found) (by decide)

end IsCanonical

/-- The canonical form is that of the accepted texts with hyphens in place and nothing but
digits and hyphens. -/
theorem is_canonical_iff (text : List Char) :
    IsCanonical text ↔ isUuid text = true ∧ HasHyphensInPlace text ∧
      ∀ c ∈ text, c = '-' ∨ IsHexDigit c := by
  rw [is_uuid_iff_read]
  constructor
  · intro canonical
    have chars := canonical.chars
    have filled : text ≠ [] := List.length_pos_iff.mp (by rw [canonical.length]; decide)
    have count := (others_counted canonical.length canonical.hyphens).mpr canonical.only_in_place
    have digits : ∀ c ∈ text.filter fun c => c != '-', IsHexDigit c := by
      intro c member
      have parts := List.mem_filter.mp member
      exact (chars c parts.1).resolve_left (by simpa using parts.2)
    have written := hex_text_of_digits digits (List.length_pos_iff.mp (by omega))
    rw [digits_of_bare chars filled, read_hex_iff _ (by simp)]
    exact ⟨⟨canonical.length, count, written⟩, canonical.hyphens, chars⟩
  · rintro ⟨⟨long, count, _⟩, hyphens, chars⟩
    have filled : text ≠ [] := List.length_pos_iff.mp (by omega)
    rw [digits_of_bare chars filled, others_counted long hyphens] at count
    refine ⟨long, hyphens, ?_⟩
    intro place c other found
    apply (chars c (List.mem_of_getElem? found)).resolve_left
    intro hyphen
    rw [hyphen] at found
    exact other (count place found)

/-- What is taken for an identifier, and where it is in the canonical form. -/
theorem identifiers_recognised (written : String) :
    (isUuid written.toList = true ↔ IsIdentifier written.toList) ∧
      (IsCanonical written.toList ↔ isUuid written.toList = true ∧
        HasHyphensInPlace written.toList ∧ ∀ c ∈ written.toList, c = '-' ∨ IsHexDigit c) :=
  ⟨is_uuid_iff _, is_canonical_iff _⟩

/-- Hyphens elsewhere, a mark in their place, and a base marker and a low line among the digits. -/
theorem lenient_identifiers_accepted :
    (isUuid "123e4567e89b12d3a456426614174000----".toList = true ∧
      ¬IsCanonical "123e4567e89b12d3a456426614174000----".toList) ∧
    (isUuid "urn:123e4567e89b12d3a456426614174000".toList = true ∧
      ¬IsCanonical "urn:123e4567e89b12d3a456426614174000".toList) ∧
    (isUuid "0x3e4567-e89b-12d3-a456-4266141740_0".toList = true ∧
      ¬IsCanonical "0x3e4567-e89b-12d3-a456-4266141740_0".toList) := by
  refine ⟨⟨by decide +kernel, ?_⟩, ⟨by decide +kernel, ?_⟩, ⟨by decide +kernel, ?_⟩⟩
  · intro canonical
    exact absurd (canonical.hyphens 8 (by decide)) (by decide)
  · intro canonical
    exact absurd (canonical.hyphens 8 (by decide)) (by decide)
  · intro canonical
    exact absurd (canonical.digits 1 'x' (by decide) rfl) (by decide)

end DocumentRules.Format
