import DocumentRules.Proofs.Bundle.UserPayload
import DocumentRules.Proofs.Pattern.Lines
import DocumentRules.Proofs.Text.Case

/-!
What the pattern for usernames lets through. It is meant for plain letters and digits, but it
ignores case in full: a long s, a Kelvin sign and the two Turkish letters i count as letters
too. And it ends before a last line feed, which then belongs to the username as well. Beyond
these a username has no other characters, and one without them is plain.
-/

set_option autoImplicit false

namespace DocumentRules

open Text Pattern

namespace Pattern.CharSet

/-- The set is made of intervals of plain characters. -/
def HasPlainIntervals (set : CharSet) : Prop :=
  ∀ member ∈ set.members, ∃ low high, member = .interval low high ∧ high < 128

/-- Where case is ignored, a character belongs to such a set only if its lowercase form is that of
a plain member, or one of the few that share their uppercase form with a plain letter. -/
theorem lower_of_holds {set : CharSet} (plain : set.HasPlainIntervals) (full : set.fold = .full)
    (positive : set.negated = false) (folds : set.folds = true) {c : Char}
    (holds : set.holds c = true) :
    (∃ code, set.members.any (Member.holds set.plainClasses code) = true ∧
        lowerOf c.toNat = plainLower code) ∨
      lowerOf c.toNat ∈ [105, 305, 115, 383] := by
  have found : ∃ member ∈ set.members,
      member.holdsFolded .full set.plainClasses (set.members.all fun other => other == member)
        (lowerOf c.toNat) = true := by
    simpa [CharSet.holds, folds, positive, full, Fold.lower] using holds
  obtain ⟨member, listed, folded⟩ := found
  obtain ⟨low, high, rfl, bound⟩ := plain member listed
  have basic : ¬basicLast < high := by
    unfold basicLast
    omega
  simp only [Member.holdsFolded, basic, decide_false, Bool.false_and, Bool.or_false,
    List.any_eq_true] at folded
  obtain ⟨code, partner, inside⟩ := folded
  have plainCode : code < 128 := by
    simp only [Member.holds, Bool.and_eq_true, decide_eq_true_eq] at inside
    omega
  obtain ⟨own, kin, source⟩ := List.mem_flatMap.mp partner
  have lower := lower_of_plain_source plainCode source
  rcases List.mem_cons.mp kin with same | kin
  · left
    refine ⟨code, List.any_eq_true.mpr ⟨_, listed, inside⟩, ?_⟩
    rw [lower, same]
  · right
    have plainOwn : own < 128 := by
      rw [← lower, plainLower]
      split
      · rename_i upper
        simp only [Bool.and_eq_true, decide_eq_true_eq] at upper
        omega
      · exact plainCode
    exact plain_kin plainOwn kin

end Pattern.CharSet

namespace Bundle

def nameSet : CharSet :=
  ⟨[.interval 97 122, .interval 65 90, .interval 48 57], false, .full, false⟩

/-- The letters that count as `i`, `k` or `s` when case is ignored, and are no plain letters. -/
def strayLetters : List Char := ['\u0130', '\u0131', '\u017f', '\u212a']

theorem ok_of_to_option {ε α : Type} {attempt : Except ε α} {value : α}
    (gives : attempt.toOption = some value) : attempt = .ok value := by
  cases attempt with
  | error fault => cases gives
  | ok own => exact congrArg Except.ok (Option.some.inj gives)

theorem compiled_name_pattern :
    Predicate.compiled (.text "^[a-zA-Z0-9]+$") (.text "i") = .ok (Node.lineOf nameSet) :=
  ok_of_to_option (by decide +kernel)

theorem matches_name_iff (name : String) :
    Matches name namePattern ↔ Node.IsLineOf nameSet name.toList := by
  have searched : Predicate.matchesTest (.text name) namePattern =
      .ok ((Node.lineOf nameSet).search name.toList) := by
    simp only [namePattern, Predicate.matchesTest, Predicate.searchTest, compiled_name_pattern]
    rfl
  rw [Matches, searched, Except.ok.injEq, Node.search_line_iff]

/-! ## The characters of a username -/

def plainCodes : List Nat := List.range' 48 10 ++ List.range' 65 26 ++ List.range' 97 26

def strayCodes : List Nat := [304, 305, 383, 8490]

/-- The lowercase forms of all these characters. -/
def loweredCodes : List Nat := List.range' 48 10 ++ List.range' 97 26 ++ [305, 383]

theorem name_sources : ∀ lowered ∈ loweredCodes, ∀ code ∈ lowerSources lowered,
    code ∈ plainCodes ++ strayCodes := by decide +kernel

theorem name_codes_hold : ∀ code ∈ plainCodes ++ strayCodes,
    nameSet.holds (Char.ofNat code) = true := by decide +kernel

theorem name_set_plain : nameSet.HasPlainIntervals := by
  intro member listed
  simp only [nameSet, List.mem_cons, List.not_mem_nil, or_false] at listed
  rcases listed with rfl | rfl | rfl
  · exact ⟨97, 122, rfl, by decide⟩
  · exact ⟨65, 90, rfl, by decide⟩
  · exact ⟨48, 57, rfl, by decide⟩

theorem alphanumeric_iff (c : Char) : c.isAlphanum = true ↔ c.toNat ∈ plainCodes := by
  delta Char.isAlphanum Char.isAlpha Char.isUpper Char.isLower Char.isDigit
  simp only [plainCodes, Bool.or_eq_true, Bool.and_eq_true, decide_eq_true_eq, List.mem_append,
    List.mem_range'_1, UInt32.le_iff_toNat_le, ge_iff_le]
  change ((65 ≤ c.toNat ∧ c.toNat ≤ 90) ∨ 97 ≤ c.toNat ∧ c.toNat ≤ 122) ∨
    48 ≤ c.toNat ∧ c.toNat ≤ 57 ↔ _
  omega

theorem stray_iff (c : Char) : c ∈ strayLetters ↔ c.toNat ∈ strayCodes := by
  have codes : strayLetters.map Char.toNat = strayCodes := by decide
  rw [← codes]
  constructor
  · exact List.mem_map_of_mem
  · intro listed
    obtain ⟨letter, member, same⟩ := List.mem_map.mp listed
    have equal : letter = c := by
      rw [← Char.ofNat_toNat letter, same, Char.ofNat_toNat]
    exact equal ▸ member

theorem lowered_of_holds {c : Char} (holds : nameSet.holds c = true) :
    lowerOf c.toNat ∈ loweredCodes := by
  rcases CharSet.lower_of_holds name_set_plain rfl rfl (by decide) holds with
    ⟨code, inside, same⟩ | few
  · simp only [nameSet, Member.holds, List.any_cons, List.any_nil, Bool.or_false, Bool.or_eq_true,
      Bool.and_eq_true, decide_eq_true_eq] at inside
    simp only [same, loweredCodes, List.mem_append, List.mem_range'_1, plainLower, Bool.and_eq_true,
      decide_eq_true_eq]
    split <;> omega
  · have all : ∀ lowered ∈ [105, 305, 115, 383], lowered ∈ loweredCodes := by decide
    exact all _ few

/-- The set holds the plain letters and digits and the stray letters. -/
theorem name_holds_iff (c : Char) :
    nameSet.holds c = true ↔ c.isAlphanum = true ∨ c ∈ strayLetters := by
  rw [alphanumeric_iff, stray_iff, ← List.mem_append]
  constructor
  · intro holds
    have lowered := lowered_of_holds holds
    have positive : ∀ code ∈ loweredCodes, 0 < code := by decide
    exact name_sources _ lowered _ (mem_lower_sources rfl (positive _ lowered))
  · intro listed
    have holds := name_codes_hold _ listed
    rwa [Char.ofNat_toNat] at holds

/-! ## The usernames -/

/-- Five to fifty characters, all plain letters and digits or stray letters, but for a line feed
that may come last. -/
structure IsAlmostPlain (name : String) : Prop where
  long : 5 ≤ name.length
  short : name.length ≤ 50
  line : ∃ line rest, name.toList = line ++ rest ∧
    (∀ c ∈ line, c.isAlphanum = true ∨ c ∈ strayLetters) ∧ (rest = [] ∨ rest = ['\n'])

theorem username_iff (name : String) : IsUsername (.text name) ↔ IsAlmostPlain name := by
  constructor
  · rintro ⟨own, same, long, short, found⟩
    cases same
    obtain ⟨line, rest, split, _, all, ends⟩ := (matches_name_iff name).mp found
    exact ⟨long, short, line, rest, split, fun c member => (name_holds_iff c).mp (all c member),
      ends⟩
  · rintro ⟨long, short, line, rest, split, all, ends⟩
    refine ⟨name, rfl, long, short, (matches_name_iff name).mpr ⟨line, rest, split, ?_,
      fun c member => (name_holds_iff c).mpr (all c member), ends⟩⟩
    rintro rfl
    have few : name.toList.length ≤ 1 := by
      rw [split]
      rcases ends with rfl | rfl <;> simp
    rw [String.length_toList] at few
    omega

theorem alphanumeric_not_stray : ∀ c ∈ '\n' :: strayLetters, c.isAlphanum = false := by
  simp only [strayLetters, List.forall_mem_cons, List.not_mem_nil, false_implies, implies_true,
    and_true]
  decide

theorem IsAlmostPlain.plain_iff {name : String} (almost : IsAlmostPlain name) :
    (∀ c ∈ name.toList, c.isAlphanum = true) ↔
      ∀ c ∈ '\n' :: strayLetters, c ∉ name.toList := by
  constructor
  · intro plain c stray member
    have impossible := alphanumeric_not_stray c stray
    rw [plain c member] at impossible
    cases impossible
  · intro none c member
    obtain ⟨line, rest, split, all, ends⟩ := almost.line
    rw [split] at member
    rcases List.mem_append.mp member with inLine | inRest
    · rcases all c inLine with plain | stray
      · exact plain
      · exact absurd (split ▸ member) (none c (List.mem_cons_of_mem _ stray))
    · rcases ends with rfl | rfl
      · cases inRest
      · have last := List.mem_singleton.mp inRest
        exact absurd (split ▸ member) (none c (last ▸ List.mem_cons_self))

/-- A payload with a username and a mail address. -/
def signUpAs (name : String) : Value :=
  .mapping [("username", .text name), ("email", .text "wren@birds.org")]

theorem sign_up_described {name : String} (almost : IsAlmostPlain name) :
    IsUserPayload (signUpAs name) where
  object := ⟨_, rfl, by simp⟩
  username := (username_iff name).mpr almost
  email := ⟨_, rfl, ok_true_of_decide (by decide)⟩
  phone := Or.inl rfl
  settings := Or.inl rfl
  roles := Or.inl rfl

/-- The username of a payload that the contract accepts is almost plain, and plain unless it holds
a line feed or a stray letter. No other username is refused. -/
theorem accepted_usernames (disk : Disk) (installed : IsFound disk) :
    ∃ contract, Contract.load disk "user_payload.json" none = .ok contract ∧
      (∀ value : Value, (contract.check value).outcome = .ok [] →
        ∃ name, value.getOrNull "username" = .text name ∧ IsAlmostPlain name ∧
          ((∀ c ∈ name.toList, c.isAlphanum = true) ↔
            ∀ c ∈ '\n' :: strayLetters, c ∉ name.toList)) ∧
      ∀ name, IsAlmostPlain name → ∃ value, (contract.check value).outcome = .ok [] ∧
        value.getOrNull "username" = .text name := by
  refine ⟨userContract, installed.load_contract, ?_, ?_⟩
  · intro value accepted
    obtain ⟨name, given, rest⟩ := ((user_contract_accepts_iff value).mp accepted).username
    have almost := (username_iff name).mp ⟨name, rfl, rest⟩
    exact ⟨name, given, almost, almost.plain_iff⟩
  · intro name almost
    exact ⟨signUpAs name, (user_contract_accepts_iff _).mpr (sign_up_described almost), rfl⟩

theorem line_feed_almost_plain : IsAlmostPlain "Wren7\n" where
  long := by decide
  short := by decide
  line := ⟨['W', 'r', 'e', 'n', '7'], ['\n'], by decide,
    fun _ member => Or.inl (List.all_eq_true.mp (by decide) _ member), Or.inr rfl⟩

theorem long_s_almost_plain : IsAlmostPlain "Jame\u017f" where
  long := by decide
  short := by decide
  line := by
    refine ⟨['J', 'a', 'm', 'e'] ++ ['\u017f'], [], by decide, ?_, Or.inl rfl⟩
    intro c member
    rcases List.mem_append.mp member with plain | stray
    · exact Or.inl (List.all_eq_true.mp (by decide) c plain)
    · rw [List.mem_singleton.mp stray]
      exact Or.inr (by decide)

theorem wren_almost_plain : IsAlmostPlain "Wren7" where
  long := by decide
  short := by decide
  line := ⟨['W', 'r', 'e', 'n', '7'], [], by decide,
    fun _ member => Or.inl (List.all_eq_true.mp (by decide) _ member), Or.inl rfl⟩

/-- An empty working directory, beside which the contract is installed. -/
def attic : Disk := install ⟨["attic"], []⟩ ["library"]

theorem attic_contract_found : IsFound attic := by
  have missing : attic.lookup (Location.ofText "user_payload.json") = .missing := by
    rw [location_of_contract, Files.lookup_walk _ (by decide +kernel) (by decide +kernel)]
    rfl
  refine ⟨by rw [missing]; rfl, ?_, library_contract _ nofun⟩
  rw [← Files.lookup_barred_iff, missing]
  exact nofun

theorem wren_username_plain :
    IsFound attic ∧
      ∃ contract, Contract.load attic "user_payload.json" none = .ok contract ∧
        (contract.check (signUpAs "Wren7")).outcome = .ok [] ∧
        ∃ name, (signUpAs "Wren7").getOrNull "username" = .text name ∧ IsAlmostPlain name ∧
          ∀ c ∈ name.toList, c.isAlphanum = true := by
  obtain ⟨contract, loaded, plain, _⟩ := accepted_usernames attic attic_contract_found
  have bundled : contract = userContract :=
    Except.ok.inj (loaded.symm.trans (attic_contract_found.load_contract))
  have accepted : (contract.check (signUpAs "Wren7")).outcome = .ok [] := by
    rw [bundled]
    exact (user_contract_accepts_iff _).mpr (sign_up_described wren_almost_plain)
  obtain ⟨name, given, almost, plainIff⟩ := plain (signUpAs "Wren7") accepted
  refine ⟨attic_contract_found, contract, loaded, accepted, name, given, almost, plainIff.mpr ?_⟩
  have own : name = "Wren7" := (Datum.text.inj given).symm
  rw [own]
  simp only [strayLetters, List.forall_mem_cons, List.not_mem_nil, false_implies, implies_true,
    and_true]
  decide +kernel

/-- A name with a line feed behind it and a name with a long s in it are accepted. -/
theorem stray_usernames_accepted :
    Contract.load attic "user_payload.json" none = .ok userContract ∧
      ∀ name ∈ ["Wren7\n", "Jame\u017f"],
        (userContract.check (signUpAs name)).outcome = .ok [] ∧
          (signUpAs name).getOrNull "username" = .text name ∧
          ¬∀ c ∈ name.toList, c.isAlphanum = true := by
  refine ⟨attic_contract_found.load_contract, ?_⟩
  rw [List.forall_mem_cons, List.forall_mem_singleton]
  refine ⟨⟨?_, rfl, ?_⟩, ⟨?_, rfl, ?_⟩⟩
  · exact (user_contract_accepts_iff _).mpr (sign_up_described line_feed_almost_plain)
  · rw [line_feed_almost_plain.plain_iff]
    exact fun none => none '\n' List.mem_cons_self (by decide +kernel)
  · exact (user_contract_accepts_iff _).mpr (sign_up_described long_s_almost_plain)
  · rw [long_s_almost_plain.plain_iff]
    exact fun none => none '\u017f' (by decide) (by decide +kernel)

end Bundle

end DocumentRules
