import DocumentRules.Files
import DocumentRules.Proofs.Text.Parts

/-!
Where the lookup of a path stops before its end. It is not begun for a path that holds a zero
character or is too long; on the way it stops at the first name that is too long for the
directory it is looked up in, or that follows a regular file.
-/

set_option autoImplicit false

namespace DocumentRules

open Text

namespace Location

theorem root_of_clean {text : List Char} (clean : '/' ∉ text) : rootOf text = "" := by
  cases text with
  | nil => rfl
  | cons first rest =>
      have other : first ≠ '/' := by
        intro same
        rw [same] at clean
        exact clean List.mem_cons_self
      unfold rootOf
      split <;> simp_all

theorem of_text_single {text : String} (clean : '/' ∉ text.toList) (nonempty : text ≠ "")
    (moves : text ≠ ".") : ofText text = ⟨"", [text]⟩ := by
  have names : namesOf text.toList = [text] := by
    rw [namesOf, cut_at_whole clean]
    simp [nonempty, moves]
  rw [ofText, root_of_clean clean, names]

/-- A path from the root through one directory. -/
theorem text_below_root (outer inner : String) :
    text ⟨"/", [outer, inner]⟩ = "/" ++ String.ofList (outer.toList ++ '/' :: inner.toList) := by
  have names : joinedNames [outer, inner] =
      String.ofList (outer.toList ++ '/' :: inner.toList) := by
    simp [joinedNames, joined]
  rw [text, names]
  exact if_neg (by simp)

theorem text_single {name : String} (nonempty : name ≠ "") : text ⟨"", [name]⟩ = name := by
  have written : "" ++ joinedNames [name] = name := by
    simp [joinedNames, joined]
  rw [text, written, if_neg nonempty]

end Location

namespace Files

variable {α : Type}

/-- Whether a walk over all its names can come to this. -/
def isEnd : Lookup α → Bool
  | .file _ => true
  | .closedFile => true
  | .directory _ => true
  | .missing => true
  | _ => false

/-- Where the names of a path are followed from. -/
def startOf (files : Files α) (location : Location) : List String :=
  if location.isRooted then [] else files.workingDirectory

/-- What stops a walk: a name behind a file, a name in a directory that refuses to look it up, or a
name that is too long for its directory. -/
inductive StopsWith : Lookup α → String → Lookup α → Prop
  | file {found : Lookup α} (name : String) (file : found.isFile = true) :
      StopsWith found name .belowFile
  | closed {access : Access} (name : String) (closed : access.searchable = false) :
      StopsWith (.directory access) name .barred
  | longName {access : Access} (name : String) (searched : access.searchable = true)
      (notUp : name ≠ "..") (long : longestName < name.utf8ByteSize) :
      StopsWith (.directory access) name .nameTooLong

/-- At one of the names the walk has come to a place where the name stops it. -/
def Meets (files : Files α) (stops : Lookup α → String → Prop) (here names : List String) : Prop :=
  ∃ before name after, names = before ++ name :: after ∧ stops (files.walk here before) name

/-- The names in front of a name lead to a directory, and the name is longer than the names in it
can be. -/
def MeetsLongName (files : Files α) (here names : List String) : Prop :=
  ∃ before name after access, names = before ++ name :: after ∧
    files.walk here before = .directory access ∧ access.searchable = true ∧
    name ≠ ".." ∧ longestName < name.utf8ByteSize

/-- The names in front of a name lead to a regular file. -/
def MeetsFile (files : Files α) (here names : List String) : Prop :=
  ∃ before name after, names = before ++ name :: after ∧ (files.walk here before).isFile = true

/-- The names in front of a name lead to a directory that refuses to look the name up. -/
def MeetsClosed (files : Files α) (here names : List String) : Prop :=
  ∃ before name after access, names = before ++ name :: after ∧
    files.walk here before = .directory access ∧ access.searchable = false

/-- The path is followed at all: it holds no zero character, and it is not too long as a whole. -/
def IsFollowed (location : Location) : Prop :=
  Char.ofNat 0 ∉ location.text.toList ∧ location.text.utf8ByteSize ≤ longestPath

/-- The path is too long as a whole, or the way along it meets a name that is. A path with a zero
character is not followed at all. -/
def IsTooLong (files : Files α) (location : Location) : Prop :=
  Char.ofNat 0 ∉ location.text.toList ∧
    (longestPath < location.text.utf8ByteSize ∨
      files.MeetsLongName (files.startOf location) location.names)

/-- The way along the path meets a regular file before its end. -/
def LeadsBelowFile (files : Files α) (location : Location) : Prop :=
  IsFollowed location ∧ files.MeetsFile (files.startOf location) location.names

/-- The way along the path meets a directory that refuses to look up the next name. -/
def IsBarred (files : Files α) (location : Location) : Prop :=
  IsFollowed location ∧ files.MeetsClosed (files.startOf location) location.names

section Walks

variable (files : Files α) {here : List String}

/-- A walk over no names ends in a file, in a directory or nowhere. -/
theorem reached_cases (here : List String) :
    (files.reached here).isFile = true ∨ (∃ access, files.reached here = .directory access) ∨
      files.reached here = .missing := by
  rw [reached]
  cases files.entryAt? here with
  | none => simp
  | some entry => cases entry <;> simp [Lookup.isFile]

/-- A directory need not be listed to be one. -/
theorem reached_unlisted
    (unlisted : ∀ entry ∈ files.entries, entry.1 ≠ here)
    (held : files.holdsDirectory here = true) : files.reached here = .directory {} := by
  have absent : (files.entries.find? fun entry => entry.1 == here) = none := by
    rw [List.find?_eq_none]
    intro entry listed same
    exact unlisted entry listed (beq_iff_eq.mp same)
  rw [reached, entryAt?, absent]
  simp only [held, if_true]

theorem reached_ends (here : List String) : isEnd (files.reached here) = true := by
  rcases files.reached_cases here with file | ⟨access, directory⟩ | missing
  · generalize files.reached here = found at file ⊢
    cases found <;> first | rfl | cases file
  · rw [directory]
    rfl
  · rw [missing]
    rfl

theorem walk_cons (name : String) (rest : List String) :
    files.walk here (name :: rest) =
      match files.onward here name with
      | .ok next => files.walk next rest
      | .error ended => ended := rfl

/-- A name in a directory that is searched leads on unless it is too long. -/
theorem onward_directory (name : String) {access : Access}
    (there : files.reached here = .directory access) (searched : access.searchable = true) :
    files.onward here name =
      if name = ".." then .ok here.dropLast
      else if longestName < name.utf8ByteSize then .error .nameTooLong
      else .ok (here ++ [name]) := by
  simp [onward, there, searched]

/-- A walk that has come to a directory which is searched. -/
theorem walk_directory (name : String) (rest : List String) {access : Access}
    (there : files.reached here = .directory access) (searched : access.searchable = true) :
    files.walk here (name :: rest) =
      if name = ".." then files.walk here.dropLast rest
      else if longestName < name.utf8ByteSize then .nameTooLong
      else files.walk (here ++ [name]) rest := by
  rw [walk_cons, files.onward_directory name there searched]
  by_cases up : name = ".."
  · simp only [if_pos up]
  · by_cases long : longestName < name.utf8ByteSize
    · simp only [if_neg up, if_pos long]
    · simp only [if_neg up, if_neg long]

theorem onward_file (name : String) (file : (files.reached here).isFile = true) :
    files.onward here name = .error .belowFile := by
  unfold onward
  generalize files.reached here = found at file ⊢
  cases found <;> first | rfl | cases file

theorem onward_barred (name : String) {access : Access}
    (there : files.reached here = .directory access) (closed : access.searchable = false) :
    files.onward here name = .error .barred := by
  simp [onward, there, closed]

theorem onward_missing (name : String) (missing : files.reached here = .missing) :
    files.onward here name = .error .missing := by
  simp [onward, missing]

theorem onward_stopped {name : String} {ended : Lookup α}
    (stops : StopsWith (files.reached here) name ended) :
    files.onward here name = .error ended := by
  generalize found : files.reached here = place at stops
  cases stops with
  | file _ file => exact files.onward_file name (found ▸ file)
  | closed _ closed => exact files.onward_barred name found closed
  | longName _ searched notUp long =>
      rw [files.onward_directory name found searched, if_neg notUp, if_pos long]

theorem stopped_of_onward {name : String} {ended : Lookup α}
    (taken : files.onward here name = .error ended) :
    files.reached here = .missing ∧ ended = .missing ∨
      StopsWith (files.reached here) name ended := by
  rcases files.reached_cases here with file | ⟨access, directory⟩ | missing
  · rw [files.onward_file name file] at taken
    cases taken
    exact Or.inr (.file name file)
  · rw [directory]
    cases searched : access.searchable with
    | false =>
        rw [files.onward_barred name directory searched] at taken
        cases taken
        exact Or.inr (.closed name searched)
    | true =>
        rw [files.onward_directory name directory searched] at taken
        split at taken
        · cases taken
        · rename_i notUp
          split at taken
          · rename_i long
            cases taken
            exact Or.inr (.longName name searched notUp long)
          · cases taken
  · rw [files.onward_missing name missing] at taken
    cases taken
    exact Or.inl ⟨missing, rfl⟩

/-- A walk ends at a name if the place is missing or the name stops it there. -/
theorem onward_error_iff (name : String) (ended : Lookup α) :
    files.onward here name = .error ended ↔
      files.reached here = .missing ∧ ended = .missing ∨
        StopsWith (files.reached here) name ended := by
  refine ⟨files.stopped_of_onward, ?_⟩
  rintro (⟨missing, rfl⟩ | stops)
  · exact files.onward_missing name missing
  · exact files.onward_stopped stops

/-- How a walk has ended stops no further name. -/
theorem StopsWith.stopped {ended : Lookup α} {found result : Lookup α} {name other : String}
    (stopped : StopsWith found name ended) : ¬StopsWith ended other result := by
  intro again
  cases stopped with
  | file _ _ => cases again with | file _ file => cases file
  | closed _ _ => cases again with | file _ file => cases file
  | longName _ _ _ _ => cases again with | file _ file => cases file

variable {stops : Lookup α → String → Prop} {name : String}

theorem not_meets_nil (stops : Lookup α → String → Prop) (here : List String) :
    ¬files.Meets stops here [] := by
  intro meets
  obtain ⟨before, name, after, same, _⟩ := meets
  cases before <;> cases same

/-- A name that leads on leads to the place from which the later names are followed. -/
theorem meets_cons_onward {next : List String} (rest : List String)
    (onward : ∀ later, files.walk here (name :: later) = files.walk next later)
    (passes : ¬stops (files.walk here []) name) :
    files.Meets stops here (name :: rest) ↔ files.Meets stops next rest := by
  constructor
  · intro meets
    obtain ⟨before, own, after, same, stopped⟩ := meets
    cases before with
    | nil =>
        cases same
        exact absurd stopped passes
    | cons first others =>
        cases same
        rw [onward] at stopped
        exact ⟨others, own, after, rfl, stopped⟩
  · intro meets
    obtain ⟨before, own, after, same, stopped⟩ := meets
    refine ⟨name :: before, own, after, congrArg (List.cons name) same, ?_⟩
    rwa [onward]

/-- Behind a name that leads nowhere on, nothing stops the walk any more. -/
theorem meets_cons_stuck {found : Lookup α} (rest : List String)
    (stuck : ∀ later, files.walk here (name :: later) = found) (never : ∀ own, ¬stops found own) :
    files.Meets stops here (name :: rest) ↔ stops (files.walk here []) name := by
  constructor
  · intro meets
    obtain ⟨before, own, after, same, stopped⟩ := meets
    cases before with
    | nil =>
        cases same
        exact stopped
    | cons first others =>
        cases same
        rw [stuck] at stopped
        exact absurd stopped (never own)
  · intro stopped
    exact ⟨[], name, rest, rfl, stopped⟩

/-- The walk ends in a way that is no end of a path exactly when it meets what stops it so. -/
theorem walk_stopped_iff {result : Lookup α} (early : isEnd result = false)
    (here names : List String) :
    files.walk here names = result ↔
      files.Meets (fun found name => StopsWith found name result) here names := by
  -- One name further, the walk and the condition start again from the same place.
  induction names generalizing here with
  | nil =>
      refine iff_of_false ?_ (files.not_meets_nil _ here)
      rintro rfl
      have ends := files.reached_ends here
      rw [walk, ends] at early
      cases early
  | cons name rest induction =>
      cases taken : files.onward here name with
      | ok next =>
          have onward (later : List String) :
              files.walk here (name :: later) = files.walk next later := by
            rw [walk_cons, taken]
          have passes : ¬StopsWith (files.walk here []) name result := by
            intro stopped
            have ended := (files.onward_error_iff name result).mpr (Or.inr stopped)
            rw [taken] at ended
            cases ended
          rw [onward, induction, files.meets_cons_onward rest onward passes]
      | error ended =>
          have stuck (later : List String) : files.walk here (name :: later) = ended := by
            rw [walk_cons, taken]
          have ends := (files.onward_error_iff name ended).mp taken
          have never (own : String) : ¬StopsWith ended own result := by
            intro again
            rcases ends with ⟨_, rfl⟩ | stopped
            · cases again with
              | file _ file => cases file
            · exact stopped.stopped again
          rw [stuck, files.meets_cons_stuck rest stuck never]
          constructor
          · rintro rfl
            refine ends.resolve_left fun both => ?_
            rw [both.2] at early
            cases early
          · intro stopped
            have other := (files.onward_error_iff name result).mpr (Or.inr stopped)
            rw [taken] at other
            exact Except.error.inj other

theorem walk_too_long_iff (here names : List String) :
    files.walk here names = .nameTooLong ↔ files.MeetsLongName here names := by
  rw [files.walk_stopped_iff rfl]
  constructor
  · intro meets
    obtain ⟨before, name, after, same, stopped⟩ := meets
    generalize found : files.walk here before = place at stopped
    cases stopped with
    | longName _ searched notUp long =>
        exact ⟨before, name, after, _, same, found, searched, notUp, long⟩
  · intro meets
    obtain ⟨before, name, after, access, same, reached, searched, notUp, long⟩ := meets
    exact ⟨before, name, after, same, reached ▸ .longName name searched notUp long⟩

theorem walk_below_file_iff (here names : List String) :
    files.walk here names = .belowFile ↔ files.MeetsFile here names := by
  rw [files.walk_stopped_iff rfl]
  constructor
  · intro meets
    obtain ⟨before, name, after, same, stopped⟩ := meets
    generalize found : files.walk here before = place at stopped
    cases stopped with
    | file _ file => exact ⟨before, name, after, same, found ▸ file⟩
  · intro meets
    obtain ⟨before, name, after, same, file⟩ := meets
    exact ⟨before, name, after, same, .file name file⟩

theorem walk_barred_iff (here names : List String) :
    files.walk here names = .barred ↔ files.MeetsClosed here names := by
  rw [files.walk_stopped_iff rfl]
  constructor
  · intro meets
    obtain ⟨before, name, after, same, stopped⟩ := meets
    generalize found : files.walk here before = place at stopped
    cases stopped with
    | closed _ closed => exact ⟨before, name, after, _, same, found, closed⟩
  · intro meets
    obtain ⟨before, name, after, access, same, reached, closed⟩ := meets
    exact ⟨before, name, after, same, reached ▸ .closed name closed⟩

/-- A walk does not look at the characters of its names. -/
theorem walk_ne_zero (here names : List String) : files.walk here names ≠ .zeroCharacter := by
  rw [Ne, files.walk_stopped_iff rfl]
  intro meets
  obtain ⟨before, name, after, _, stopped⟩ := meets
  generalize files.walk here before = place at stopped
  cases stopped

end Walks

section Lookups

variable (files : Files α) {location : Location}

theorem lookup_walk (noZero : Char.ofNat 0 ∉ location.text.toList)
    (short : ¬longestPath < location.text.utf8ByteSize) :
    files.lookup location = files.walk (files.startOf location) location.names := by
  rw [lookup, lookupNames, if_neg fun inside => noZero (List.contains_iff_mem.mp inside),
    if_neg short]
  rfl

theorem lookup_zero (zero : Char.ofNat 0 ∈ location.text.toList) :
    files.lookup location = .zeroCharacter := by
  rw [lookup, lookupNames, if_pos (List.contains_iff_mem.mpr zero)]

theorem lookup_long (noZero : Char.ofNat 0 ∉ location.text.toList)
    (long : longestPath < location.text.utf8ByteSize) : files.lookup location = .nameTooLong := by
  rw [lookup, lookupNames, if_neg fun inside => noZero (List.contains_iff_mem.mp inside),
    if_pos long]

theorem lookup_too_long_iff (location : Location) :
    files.lookup location = .nameTooLong ↔ files.IsTooLong location := by
  by_cases zero : Char.ofNat 0 ∈ location.text.toList
  · rw [files.lookup_zero zero]
    exact iff_of_false (by simp) fun both => both.1 zero
  · by_cases long : longestPath < location.text.utf8ByteSize
    · exact iff_of_true (files.lookup_long zero long) ⟨zero, Or.inl long⟩
    · rw [files.lookup_walk zero long, walk_too_long_iff]
      constructor
      · intro meets
        exact ⟨zero, Or.inr meets⟩
      · intro both
        exact both.2.resolve_left long

/-- A path is followed to its end, or to where its walk stops, unless it is not followed at all. -/
theorem lookup_eq_iff {result : Lookup α} (noZero : result ≠ .zeroCharacter)
    (short : result ≠ .nameTooLong) (location : Location) :
    files.lookup location = result ↔
      IsFollowed location ∧ files.walk (files.startOf location) location.names = result := by
  by_cases zero : Char.ofNat 0 ∈ location.text.toList
  · rw [files.lookup_zero zero]
    exact iff_of_false noZero.symm fun both => both.1.1 zero
  · by_cases long : longestPath < location.text.utf8ByteSize
    · rw [files.lookup_long zero long]
      exact iff_of_false short.symm fun both => Nat.not_le.mpr long both.1.2
    · rw [files.lookup_walk zero long, IsFollowed]
      exact (and_iff_right ⟨zero, Nat.not_lt.mp long⟩).symm

theorem lookup_below_file_iff (location : Location) :
    files.lookup location = .belowFile ↔ files.LeadsBelowFile location := by
  have noZero : (.belowFile : Lookup α) ≠ .zeroCharacter := by simp
  have short : (.belowFile : Lookup α) ≠ .nameTooLong := by simp
  rw [files.lookup_eq_iff noZero short, walk_below_file_iff, LeadsBelowFile]

theorem lookup_barred_iff (location : Location) :
    files.lookup location = .barred ↔ files.IsBarred location := by
  have noZero : (.barred : Lookup α) ≠ .zeroCharacter := by simp
  have short : (.barred : Lookup α) ≠ .nameTooLong := by simp
  rw [files.lookup_eq_iff noZero short, walk_barred_iff, IsBarred]

theorem lookup_zero_iff (location : Location) :
    files.lookup location = .zeroCharacter ↔ Char.ofNat 0 ∈ location.text.toList := by
  by_cases zero : Char.ofNat 0 ∈ location.text.toList
  · exact iff_of_true (files.lookup_zero zero) zero
  · refine iff_of_false ?_ zero
    by_cases long : longestPath < location.text.utf8ByteSize
    · rw [files.lookup_long zero long]
      simp
    · rw [files.lookup_walk zero long]
      exact files.walk_ne_zero _ _

/-- A single name that is too long for the working directory is too long as a path. -/
theorem ne_of_long {name short : String} (long : longestName < name.utf8ByteSize)
    (few : short.utf8ByteSize ≤ longestName) : name ≠ short := by
  rintro rfl
  exact Nat.not_lt.mpr few long

theorem too_long_of_name {name : String} (clean : '/' ∉ name.toList)
    (noZero : Char.ofNat 0 ∉ name.toList) (long : longestName < name.utf8ByteSize)
    {access : Access} (there : files.reached files.workingDirectory = .directory access)
    (searched : access.searchable = true) : files.IsTooLong (Location.ofText name) := by
  have nonempty : name ≠ "" := ne_of_long long (by decide)
  rw [Location.of_text_single clean nonempty (ne_of_long long (by decide)), IsTooLong,
    Location.text_single nonempty]
  exact ⟨noZero, Or.inr
    ⟨[], name, [], access, rfl, there, searched, ne_of_long long (by decide), long⟩⟩

end Lookups

end Files

end DocumentRules
