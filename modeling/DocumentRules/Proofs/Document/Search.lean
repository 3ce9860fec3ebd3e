import DocumentRules.Proofs.Bundle.Contract
import DocumentRules.Proofs.Document.Literals

/-!
The search for a contract. A path stands for the file that it leads to, else for what its last
name leads to in the directory of the bundled documents, else for what the whole path leads to
there, and loading gives what that document says, or tells why it cannot be read, or that there
is no such document. Only where the search goes astray does it end otherwise: at a name or a
path that is too long, at a zero character, below a file, or at what may not be opened or
searched.
-/

set_option autoImplicit false

namespace DocumentRules

variable {κ : Type}

/-! ## What a path stands for -/

/-- The path leads to no file on the disk. -/
def IsAbsent (disk : Disk) (path : String) : Prop :=
  (disk.lookup (Location.ofText path)).isFile = false

/-- From the directory of the bundled documents the path leads to no file. -/
def IsUnknown (disk : Disk) (path : String) : Prop :=
  (disk.lookup (disk.inLibrary (Location.ofText path))).isFile = false

/-- The document that a path stands for. -/
inductive StandsFor (disk : Disk) (path : String) : FoundDocument → Prop
  | onDisk (bytes : List UInt8) (there : disk.lookup (Location.ofText path) = .file bytes) :
      StandsFor disk path (.onDisk (Location.ofText path).text bytes)
  | byLastName (bytes : List UInt8) (absent : IsAbsent disk path)
      (there : disk.lookup (disk.inLibrary (Location.ofText (Location.ofText path).name)) =
        .file bytes) :
      StandsFor disk path (.bundled (Location.ofText path).name bytes)
  | byPath (bytes : List UInt8) (absent : IsAbsent disk path)
      (unknown : IsUnknown disk (Location.ofText path).name)
      (there : disk.lookup (disk.inLibrary (Location.ofText path)) = .file bytes) :
      StandsFor disk path (.bundled path bytes)

/-! ## Where the search goes astray -/

/-- A document that has been found says nothing, because it is no text or the text is none. -/
inductive SourceFault.IsUnreadable : SourceFault → Prop
  | undecodable (refusal : Text.Utf8Refusal) : IsUnreadable (.undecodable refusal)
  | unreadable (origin : String) (refusal : Json.Refusal) (whole : refusal ≠ .halfPair) :
      IsUnreadable (.unreadable origin refusal)

/-- Looking for a file fails: the path cannot be followed to where the file would be, or the file
may not be opened. -/
inductive Files.Refuses {α : Type} (files : Files α) (location : Location) : SourceFault → Prop
  | nameTooLong (long : files.IsTooLong location) : Files.Refuses files location .nameTooLong
  | barred (barred : files.IsBarred location) : Files.Refuses files location .denied
  | closed (closed : files.lookup location = .closedFile) : Files.Refuses files location .denied

/-- Opening what a path leads to fails, and not because that is missing or a directory. -/
inductive Files.Fails {α : Type} (files : Files α) (location : Location) : SourceFault → Prop
  | refused {fault : SourceFault} (refuses : files.Refuses location fault) :
      Files.Fails files location fault
  | zeroCharacter (zero : Char.ofNat 0 ∈ location.text.toList) :
      Files.Fails files location .zeroCharacter
  | belowFile (below : files.LeadsBelowFile location) : Files.Fails files location .belowFile
  | closedDirectory {access : Access} (there : files.lookup location = .directory access)
      (closed : access.readable = false) : Files.Fails files location .denied

/-- A lookup that fails is neither a document that cannot be read nor one that is not there. -/
theorem Files.Fails.unmeant {α : Type} {files : Files α} {location : Location}
    {fault : SourceFault} (fails : files.Fails location fault) (path : String) :
    fault ≠ .unknownSchema path ∧ ¬fault.IsUnreadable := by
  cases fails with
  | refused refuses => cases refuses <;> exact ⟨nofun, nofun⟩
  | _ => exact ⟨nofun, nofun⟩

/-- The search fails on the disk when the path cannot be followed there or its file may not be
opened; then from the directory of the bundled documents, first at the last name and then at the
whole path, whatever the reason. -/
inductive Astray (disk : Disk) (path : String) : SourceFault → Prop
  | onDisk {fault : SourceFault} (refuses : disk.Refuses (Location.ofText path) fault) :
      Astray disk path fault
  | atLastName {fault : SourceFault} (absent : IsAbsent disk path)
      (passed : ∀ other, ¬disk.Refuses (Location.ofText path) other)
      (fails : disk.Fails (disk.inLibrary (Location.ofText (Location.ofText path).name)) fault) :
      Astray disk path fault
  | atPath {fault : SourceFault} (absent : IsAbsent disk path)
      (passed : ∀ other, ¬disk.Refuses (Location.ofText path) other)
      (unknown : IsUnknown disk (Location.ofText path).name)
      (passedName : ∀ other,
        ¬disk.Fails (disk.inLibrary (Location.ofText (Location.ofText path).name)) other)
      (fails : disk.Fails (disk.inLibrary (Location.ofText path)) fault) :
      Astray disk path fault

theorem Astray.unmeant {disk : Disk} {path : String} {fault : SourceFault}
    (astray : Astray disk path fault) : fault ≠ .unknownSchema path ∧ ¬fault.IsUnreadable := by
  cases astray with
  | onDisk refuses => exact (Files.Fails.refused refuses).unmeant path
  | atLastName _ _ fails => exact fails.unmeant path
  | atPath _ _ _ _ fails => exact fails.unmeant path

/-! ## Lookups and their faults -/

section Candidates

variable {α : Type}

/-- The fault of a lookup that a file is looked for with. -/
def Lookup.refusal? : Lookup α → Option SourceFault
  | .nameTooLong => some .nameTooLong
  | .barred => some .denied
  | .closedFile => some .denied
  | _ => none

/-- The fault of a lookup whose result is opened, where that is not missing or a directory. -/
def Lookup.failure? : Lookup α → Option SourceFault
  | .belowFile => some .belowFile
  | .nameTooLong => some .nameTooLong
  | .barred => some .denied
  | .closedFile => some .denied
  | .directory access => if access.readable then none else some .denied
  | .zeroCharacter => some .zeroCharacter
  | _ => none

theorem Files.refuses_iff (files : Files α) (location : Location) (fault : SourceFault) :
    files.Refuses location fault ↔ (files.lookup location).refusal? = some fault := by
  constructor
  · intro refuses
    cases refuses with
    | nameTooLong long => rw [(files.lookup_too_long_iff location).mpr long, Lookup.refusal?]
    | barred barred => rw [(files.lookup_barred_iff location).mpr barred, Lookup.refusal?]
    | closed closed => rw [closed, Lookup.refusal?]
  · intro refused
    cases found : files.lookup location with
    | nameTooLong =>
        rw [found] at refused
        cases refused
        exact .nameTooLong ((files.lookup_too_long_iff location).mp found)
    | barred =>
        rw [found] at refused
        cases refused
        exact .barred ((files.lookup_barred_iff location).mp found)
    | closedFile =>
        rw [found] at refused
        cases refused
        exact .closed found
    | _ =>
        rw [found] at refused
        cases refused

theorem Lookup.failure_of_refusal {lookup : Lookup α} {fault : SourceFault}
    (refused : lookup.refusal? = some fault) : lookup.failure? = some fault := by
  cases lookup <;> first | exact refused | cases refused

theorem Files.fails_iff (files : Files α) (location : Location) (fault : SourceFault) :
    files.Fails location fault ↔ (files.lookup location).failure? = some fault := by
  constructor
  · intro fails
    cases fails with
    | refused refuses =>
        exact Lookup.failure_of_refusal ((files.refuses_iff location fault).mp refuses)
    | zeroCharacter zero => rw [(files.lookup_zero_iff location).mpr zero, Lookup.failure?]
    | belowFile below => rw [(files.lookup_below_file_iff location).mpr below, Lookup.failure?]
    | closedDirectory there closed => rw [there, Lookup.failure?, closed]; rfl
  · intro failed
    cases found : files.lookup location with
    | zeroCharacter =>
        rw [found] at failed
        cases failed
        exact .zeroCharacter ((files.lookup_zero_iff location).mp found)
    | belowFile =>
        rw [found] at failed
        cases failed
        exact .belowFile ((files.lookup_below_file_iff location).mp found)
    | directory access =>
        cases closed : access.readable with
        | true => simp [found, Lookup.failure?, closed] at failed
        | false =>
            obtain rfl : SourceFault.denied = fault := by
              simpa [found, Lookup.failure?, closed] using failed
            exact .closedDirectory found closed
    | nameTooLong | barred | closedFile =>
        rw [found] at failed
        exact .refused ((files.refuses_iff location fault).mpr (found ▸ failed))
    | file _ | missing =>
        rw [found] at failed
        cases failed

theorem Files.no_refusal_iff (files : Files α) (location : Location) :
    (files.lookup location).refusal? = none ↔ ∀ fault, ¬files.Refuses location fault := by
  simp only [Option.eq_none_iff_forall_ne_some, files.refuses_iff, ne_eq]

theorem Files.no_failure_iff (files : Files α) (location : Location) :
    (files.lookup location).failure? = none ↔ ∀ fault, ¬files.Fails location fault := by
  simp only [Option.eq_none_iff_forall_ne_some, files.fails_iff, ne_eq]

theorem file_at_refused {lookup : Lookup α} {fault : SourceFault}
    (refused : lookup.refusal? = some fault) : fileAt? lookup = .error fault := by
  cases lookup <;> cases refused <;> rfl

theorem refusal_of_file_at {lookup : Lookup α} {fault : SourceFault}
    (failed : fileAt? lookup = .error fault) : lookup.refusal? = some fault := by
  cases lookup <;> cases failed <;> rfl

theorem file_at_none {lookup : Lookup α} (absent : lookup.isFile = false)
    (passed : lookup.refusal? = none) : fileAt? lookup = .ok none := by
  cases lookup with
  | file _ | closedFile => cases absent
  | nameTooLong | barred => cases passed
  | directory _ | missing | belowFile | zeroCharacter => rfl

/-- Only a file that may not be opened is a file that is not found. -/
theorem is_file_iff (lookup : Lookup α) :
    lookup.isFile = true ↔ (∃ contents, lookup = .file contents) ∨ lookup = .closedFile := by
  cases lookup <;> simp [Lookup.isFile]

variable {disk : Disk} {name : String}

theorem candidate_found {bytes : List UInt8}
    (there : disk.lookup (disk.inLibrary (Location.ofText name)) = .file bytes) :
    bundledCandidate? disk name = .ok (some (.bundled name bytes)) := by
  unfold bundledCandidate?
  rw [there]
  rfl

theorem candidate_failed {fault : SourceFault}
    (fails : disk.Fails (disk.inLibrary (Location.ofText name)) fault) :
    bundledCandidate? disk name = .error fault := by
  rw [Files.fails_iff] at fails
  unfold bundledCandidate?
  generalize disk.lookup (disk.inLibrary (Location.ofText name)) = lookup at fails
  cases lookup with
  | directory access =>
      cases closed : access.readable with
      | true => simp [Lookup.failure?, closed] at fails
      | false =>
          obtain rfl : SourceFault.denied = fault := by
            simpa [Lookup.failure?, closed] using fails
          simp [opened, closed]
  | _ => cases fails <;> rfl

/-- A candidate that is no file gives way, unless opening it fails. -/
theorem candidate_passed (unknown : IsUnknown disk name)
    (passed : ∀ fault, ¬disk.Fails (disk.inLibrary (Location.ofText name)) fault) :
    bundledCandidate? disk name = .ok none := by
  rw [← Files.no_failure_iff] at passed
  unfold IsUnknown at unknown
  unfold bundledCandidate?
  generalize disk.lookup (disk.inLibrary (Location.ofText name)) = lookup at unknown passed
  cases lookup with
  | missing => rfl
  | directory access =>
      cases closed : access.readable with
      | true => simp [opened, closed]
      | false => simp [Lookup.failure?, closed] at passed
  | file _ => cases unknown
  | _ => cases passed

end Candidates

/-! ## The search -/

section Search

variable {disk : Disk} {path : String}

/-- Past the disk, the search goes on with the last name and then with the whole path. -/
theorem locate_past_disk (absent : IsAbsent disk path)
    (passed : ∀ fault, ¬disk.Refuses (Location.ofText path) fault) :
    locateDocument disk path =
      (bundledCandidate? disk (Location.ofText path).name).bind fun first =>
        first.elim
          ((bundledCandidate? disk path).bind fun second =>
            second.elim (.error (.unknownSchema path)) .ok)
          .ok := by
  have unseen := file_at_none absent ((disk.no_refusal_iff _).mpr passed)
  unfold locateDocument
  simp only [unseen]
  cases bundledCandidate? disk (Location.ofText path).name with
  | error fault => rfl
  | ok first =>
      cases first with
      | some found => rfl
      | none =>
          cases bundledCandidate? disk path with
          | error fault => rfl
          | ok second => cases second <;> rfl

/-- Past the last name, only the whole path is left. -/
theorem locate_past_name (absent : IsAbsent disk path)
    (passed : ∀ fault, ¬disk.Refuses (Location.ofText path) fault)
    (unknown : IsUnknown disk (Location.ofText path).name)
    (passedName : ∀ fault,
      ¬disk.Fails (disk.inLibrary (Location.ofText (Location.ofText path).name)) fault) :
    locateDocument disk path =
      (bundledCandidate? disk path).bind fun second =>
        second.elim (.error (.unknownSchema path)) .ok := by
  simp only [locate_past_disk absent passed, candidate_passed unknown passedName, Except.bind,
    Option.elim_none]

theorem locate_astray {fault : SourceFault} (astray : Astray disk path fault) :
    locateDocument disk path = .error fault := by
  cases astray with
  | onDisk refuses =>
      unfold locateDocument
      simp only [file_at_refused ((disk.refuses_iff _ fault).mp refuses)]
      rfl
  | atLastName absent passed fails =>
      rw [locate_past_disk absent passed, candidate_failed fails]
      rfl
  | atPath absent passed unknown passedName fails =>
      rw [locate_past_name absent passed unknown passedName, candidate_failed fails]
      rfl

section Straight

variable (straight : ∀ fault, ¬Astray disk path fault)

include straight

/-- Where the search does not go astray, the disk refuses nothing. -/
theorem disk_passed (fault : SourceFault) : ¬disk.Refuses (Location.ofText path) fault :=
  fun refuses => straight fault (.onDisk refuses)

theorem name_passed (absent : IsAbsent disk path) (fault : SourceFault) :
    ¬disk.Fails (disk.inLibrary (Location.ofText (Location.ofText path).name)) fault :=
  fun fails => straight fault (.atLastName absent (disk_passed straight) fails)

theorem path_passed (absent : IsAbsent disk path)
    (unknown : IsUnknown disk (Location.ofText path).name) (fault : SourceFault) :
    ¬disk.Fails (disk.inLibrary (Location.ofText path)) fault :=
  fun fails => straight fault
    (.atPath absent (disk_passed straight) unknown (name_passed straight absent) fails)

theorem locate_stands_for {found : FoundDocument} (stands : StandsFor disk path found) :
    locateDocument disk path = .ok found := by
  have passed := disk_passed straight
  cases stands with
  | onDisk bytes there =>
      unfold locateDocument
      simp only [there]
      rfl
  | byLastName bytes absent there =>
      rw [locate_past_disk absent passed, candidate_found there]
      rfl
  | byPath bytes absent unknown there =>
      rw [locate_past_name absent passed unknown (name_passed straight absent),
        candidate_found there]
      rfl

theorem locate_unknown (nothing : ∀ found, ¬StandsFor disk path found) :
    locateDocument disk path = .error (.unknownSchema path) := by
  have passed := disk_passed straight
  have absent : IsAbsent disk path := by
    rw [IsAbsent, ← Bool.not_eq_true, is_file_iff]
    rintro (⟨bytes, there⟩ | closed)
    · exact nothing _ (.onDisk bytes there)
    · exact passed _ (.closed closed)
  have passedName := name_passed straight absent
  have unknown : IsUnknown disk (Location.ofText path).name := by
    rw [IsUnknown, ← Bool.not_eq_true, is_file_iff]
    rintro (⟨bytes, there⟩ | closed)
    · exact nothing _ (.byLastName bytes absent there)
    · exact passedName _ (.refused (.closed closed))
  have passedPath := path_passed straight absent unknown
  have unknownPath : IsUnknown disk path := by
    rw [IsUnknown, ← Bool.not_eq_true, is_file_iff]
    rintro (⟨bytes, there⟩ | closed)
    · exact nothing _ (.byPath bytes absent unknown there)
    · exact passedPath _ (.refused (.closed closed))
  rw [locate_past_name absent passed unknown passedName, candidate_passed unknownPath passedPath]
  rfl

end Straight

end Search

/-! ## Loading -/

namespace Json

/-- How deep the brackets of a text lie in one another, those between quotes left out. -/
def nestingFrom : (quoted : Bool) → (level : Nat) → List Char → Nat
  | _, level, [] => level
  | true, level, '\\' :: _ :: rest => nestingFrom true level rest
  | true, level, c :: rest => nestingFrom (c != '"') level rest
  | false, level, c :: rest =>
      if c == '[' || c == '\x7b' then nestingFrom false (level + 1) rest
      else if c == ']' || c == '\x7d' then max level (nestingFrom false (level - 1) rest)
      else nestingFrom (c == '"') level rest

def nesting (text : String) : Nat := nestingFrom false 0 text.toList

/-- Deeper brackets are not asked about: what follows them one by one needs a stack. -/
def deepest : Nat := 100

end Json

namespace FoundDocument

def bytes : FoundDocument → List UInt8
  | .onDisk _ bytes => bytes
  | .bundled _ bytes => bytes

/-- What a document says: its bytes are a text and the text is a document. -/
def Says (found : FoundDocument) (datum : Datum κ) : Prop :=
  ∃ text, Text.fileText found.bytes = .ok text ∧ Json.read text = .ok datum

/-- The text of a document, if it is one, is not nested too deep, and it holds no half of a
surrogate pair. -/
def IsFollowed (κ : Type) (found : FoundDocument) : Prop :=
  ∀ text, Text.fileText found.bytes = .ok text →
    Json.nesting text ≤ Json.deepest ∧
      (Json.read text : Except Json.Refusal (Datum κ)) ≠ .error .halfPair

theorem read_says (found : FoundDocument) (followed : found.IsFollowed κ) :
    (∀ datum : Datum κ, found.read = .ok datum ↔ found.Says datum) ∧
      ∀ fault, (found.read : Except SourceFault (Datum κ)) = .error fault →
        fault.IsUnreadable := by
  have ofBytes (origin : String) (same : found.read = (readBytes origin found.bytes :
      Except SourceFault (Datum κ))) :
      (∀ datum : Datum κ, found.read = .ok datum ↔ found.Says datum) ∧
        ∀ fault, (found.read : Except SourceFault (Datum κ)) = .error fault →
          fault.IsUnreadable := by
    simp only [same, readBytes, Says]
    cases decoded : Text.fileText found.bytes with
    | error refusal => simp [SourceFault.IsUnreadable.undecodable]
    | ok text =>
        have whole := (followed text decoded).2
        simp only [readDocument, Except.ok.injEq, exists_eq_left']
        cases read : (Json.read text : Except Json.Refusal (Datum κ)) with
        | ok own => simp
        | error refusal =>
            have other : refusal ≠ .halfPair := by
              rintro rfl
              exact whole read
            simp [SourceFault.IsUnreadable.unreadable _ refusal other]
  cases found with
  | onDisk origin bytes => exact ofBytes origin rfl
  | bundled name bytes => exact ofBytes name rfl

end FoundDocument

/-- Loading gives what the document says that the path stands for; it fails when that says
nothing, and when the path stands for none. Where the search goes astray it ends there, and only
there does it fail in another way. -/
theorem document_loaded_unless_astray (disk : Disk) (path : String) :
    ((∀ fault, ¬Astray disk path fault) →
        (∀ found, StandsFor disk path found → found.IsFollowed κ →
          (∀ datum : Datum κ, loadDocument disk path = .ok datum ↔ found.Says datum) ∧
            ∀ fault, (loadDocument disk path : Except SourceFault (Datum κ)) = .error fault →
              fault.IsUnreadable) ∧
          ((∀ found, ¬StandsFor disk path found) →
            (loadDocument disk path : Except SourceFault (Datum κ)) =
              .error (.unknownSchema path))) ∧
      ∀ fault, Astray disk path fault →
        (loadDocument disk path : Except SourceFault (Datum κ)) = .error fault ∧
          fault ≠ .unknownSchema path ∧ ¬fault.IsUnreadable := by
  have located {found : FoundDocument} (search : locateDocument disk path = .ok found) :
      (loadDocument disk path : Except SourceFault (Datum κ)) = found.read := by
    rw [loadDocument, search]
    rfl
  have failed {fault : SourceFault} (search : locateDocument disk path = .error fault) :
      (loadDocument disk path : Except SourceFault (Datum κ)) = .error fault := by
    rw [loadDocument, search]
    rfl
  refine ⟨?_, ?_⟩
  · intro straight
    refine ⟨?_, fun nothing => failed (locate_unknown straight nothing)⟩
    intro found stands followed
    rw [located (locate_stands_for straight stands)]
    exact found.read_says followed
  · intro fault astray
    exact ⟨failed (locate_astray astray), astray.unmeant⟩

/-- The bundled contract is followed wherever it is found. -/
theorem contract_followed (name : String) :
    (FoundDocument.bundled name (Bundle.plainBytes Bundle.contractText)).IsFollowed κ := by
  intro text decoded
  rw [FoundDocument.bytes, Bundle.contract_file_text, Except.ok.injEq] at decoded
  subst decoded
  refine ⟨?_, ?_⟩
  · simp only [Json.nesting, Bundle.contract_chars, Bundle.contractLines, List.flatMap_cons,
      List.flatMap_nil]
    repeat rewrite [String.toList_ofList]
    decide +kernel
  · rw [Bundle.read_contract_text]
    intro unread
    cases unread

/-- An empty working directory, and nothing else on the disk but the bundled documents. -/
def cellar : Disk := Bundle.install ⟨["cellar"], []⟩ ["library"]

/-- There the bundled contract is what its name stands for, and the search does not go astray. -/
theorem cellar_contract_loaded :
    (∀ fault, ¬Astray cellar "user_payload.json" fault) ∧
      ∀ datum : Value, loadDocument cellar "user_payload.json" = .ok datum ↔
        (FoundDocument.bundled "user_payload.json"
          (Bundle.plainBytes Bundle.contractText)).Says datum := by
  have there : cellar.lookup (cellar.inLibrary
      (Location.ofText (Location.ofText "user_payload.json").name)) =
        .file (Bundle.plainBytes Bundle.contractText) :=
    Bundle.library_contract ⟨["cellar"], []⟩ nofun
  have missing : cellar.lookup (Location.ofText "user_payload.json") = .missing := rfl
  have absent : IsAbsent cellar "user_payload.json" := by
    rw [IsAbsent, missing]
    rfl
  have straight (fault : SourceFault) : ¬Astray cellar "user_payload.json" fault := by
    intro astray
    cases astray with
    | onDisk refuses =>
        rw [Files.refuses_iff, missing] at refuses
        cases refuses
    | atLastName _ _ fails =>
        rw [Files.fails_iff, there] at fails
        cases fails
    | atPath _ _ unknown _ _ =>
        rw [IsUnknown, there] at unknown
        cases unknown
  have stands := StandsFor.byLastName _ absent there
  have loaded := (document_loaded_unless_astray (κ := Unit) cellar "user_payload.json").1 straight
  exact ⟨straight, (loaded.1 _ stands (contract_followed _)).1⟩

def longName : String := String.ofList Source.longWord

theorem stands_for_nothing {disk : Disk} {path : String} (absent : IsAbsent disk path)
    (unknownName : IsUnknown disk (Location.ofText path).name) (unknown : IsUnknown disk path)
    (found : FoundDocument) : ¬StandsFor disk path found := by
  intro stands
  cases stands with
  | onDisk bytes there =>
      rw [IsAbsent, there] at absent
      cases absent
  | byLastName bytes _ there =>
      rw [IsUnknown, there] at unknownName
      cases unknownName
  | byPath bytes _ _ there =>
      rw [IsUnknown, there] at unknown
      cases unknown

theorem not_in_long_name {c : Char} (other : c ≠ 'a') : c ∉ longName.toList := by
  intro member
  rw [longName, String.toList_ofList] at member
  exact other (List.mem_replicate.mp member).2

theorem long_name_long : Files.longestName < longName.utf8ByteSize := by decide +kernel

theorem long_name_location : Location.ofText longName = ⟨"", [longName]⟩ :=
  Location.of_text_single (not_in_long_name (by decide))
    (Files.ne_of_long long_name_long (by decide)) (Files.ne_of_long long_name_long (by decide))

/-- The name is too long for a directory of the disk. -/
theorem long_name_too_long : cellar.IsTooLong (Location.ofText longName) :=
  cellar.too_long_of_name (not_in_long_name (by decide)) (not_in_long_name (by decide))
    long_name_long rfl rfl

theorem long_name_too_long_in_library :
    cellar.IsTooLong (cellar.inLibrary (Location.ofText longName)) := by
  have place : cellar.inLibrary (Location.ofText longName) = ⟨"/", ["library", longName]⟩ := by
    rw [long_name_location]
    rfl
  have outside : Char.ofNat 0 ∉ longName.toList := not_in_long_name (by decide)
  have notUp : longName ≠ ".." := Files.ne_of_long long_name_long (by decide)
  rw [place]
  refine ⟨?_, Or.inr ⟨["library"], longName, [], {}, rfl, rfl, rfl, notUp, long_name_long⟩⟩
  rw [Location.text_below_root, String.toList_append, String.toList_ofList]
  simpa using outside

/-- None of these paths stands for a document, and none of them is told to be unknown. -/
theorem cellar_search_astray :
    ((∀ found, ¬StandsFor cellar "user_payload.json/x" found) ∧
        (loadDocument cellar "user_payload.json/x" : Except SourceFault Value) =
          .error .belowFile) ∧
      ((∀ found, ¬StandsFor cellar "x\x00" found) ∧
        (loadDocument cellar "x\x00" : Except SourceFault Value) = .error .zeroCharacter) ∧
      (∀ found, ¬StandsFor cellar longName found) ∧
        (loadDocument cellar longName : Except SourceFault Value) = .error .nameTooLong := by
  have library := long_name_too_long_in_library
  refine ⟨⟨stands_for_nothing rfl rfl rfl, rfl⟩, ⟨stands_for_nothing rfl rfl rfl, rfl⟩, ?_, ?_⟩
  · have unknown : IsUnknown cellar longName := by
      rw [IsUnknown, (cellar.lookup_too_long_iff _).mpr library]
      rfl
    refine stands_for_nothing ?_ ?_ unknown
    · rw [IsAbsent, (cellar.lookup_too_long_iff _).mpr long_name_too_long]
      rfl
    · rwa [long_name_location]
  · rw [loadDocument, locate_astray (.onDisk (.nameTooLong long_name_too_long))]
    rfl

end DocumentRules
