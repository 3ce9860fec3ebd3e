import DocumentRules.Document
import DocumentRules.Proofs.Files.Lookups

/-!
Documents that are given as texts. A text is first looked up as a path, and the lookup
fails where the text, or one of the names it is cut into, is too long for the file
system, or where a directory on the way may not be searched. A text that leads to no file
is read as the document it spells unless that happens, however well the document is written.
-/

set_option autoImplicit false

namespace DocumentRules

open Text

namespace Json

variable {κ : Type}

def IsPlain (c : Char) : Prop := c ≠ '"' ∧ c ≠ '\\' ∧ 32 ≤ c.toNat

theorem read_units_plain (opening : Nat) {word : List Char} (plain : ∀ c ∈ word, IsPlain c)
    (rest : List Char) :
    readUnits opening (word ++ '"' :: rest) = .ok (word.map TextUnit.char, rest) := by
  induction word with
  | nil => rw [List.nil_append, readUnits, List.map_nil]
  | cons c later induction =>
      obtain ⟨notQuote, notEscape, printed⟩ := plain c List.mem_cons_self
      have inner := induction fun other member => plain other (List.mem_cons_of_mem c member)
      rw [List.cons_append, readUnits, if_neg (Nat.not_lt.mpr printed), inner]
      · rfl
      all_goals
        intros
        contradiction

theorem join_units_chars (word : List Char) :
    joinUnits? (word.map TextUnit.char) = some word := by
  induction word with
  | nil => rfl
  | cons c later induction => rw [List.map_cons, joinUnits?, induction, Option.map_some]

def quoted (word : List Char) : String := String.ofList ('"' :: (word ++ ['"']))

/-- Plain characters between quotes are read as the text they are. -/
theorem read_quoted {word : List Char} (plain : ∀ c ∈ word, IsPlain c) :
    (read (quoted word) : Except Refusal (Datum κ)) = .ok (.text (String.ofList word)) := by
  have inner (opening : Nat) : readText opening (word ++ ['"']) = .ok (word, []) := by
    rw [readText, read_units_plain opening plain [], Except.bind]
    simp only [join_units_chars]
  have whole : (readWhole ('"' :: (word ++ ['"'])) : Except Stop (Datum κ)) =
      .ok (.text (String.ofList word)) := by
    rw [readWhole]
    have blanks : skipBlanks ('"' :: (word ++ ['"'])) = '"' :: (word ++ ['"']) := rfl
    rw [blanks, readDatum, inner]
    rfl
  rw [read, quoted, String.toList_ofList, whole]
  rfl

end Json

namespace Source

/-- A document given as a text that leads to no file is read for what it is, exactly when the text
is neither too long to be looked up nor barred on its way; otherwise the lookup is the fault. -/
theorem literal_read_iff (disk : Disk) (written : String) (value : Value)
    (valid : Json.read written = .ok value)
    (absent : (disk.lookup (Location.ofText written)).isFile = false) :
    (read disk (.text written) = .ok value ↔
        ¬disk.IsTooLong (Location.ofText written) ∧ ¬disk.IsBarred (Location.ofText written)) ∧
      (disk.IsTooLong (Location.ofText written) →
        read disk (.text written) = .error .nameTooLong) ∧
      (disk.IsBarred (Location.ofText written) → read disk (.text written) = .error .denied) := by
  rw [← Files.lookup_too_long_iff, ← Files.lookup_barred_iff]
  have document : readDocument "input" written = .ok value := by
    rw [readDocument, valid]
  rw [read]
  cases found : disk.lookup (Location.ofText written) with
  | file contents =>
      rw [found] at absent
      cases absent
  | closedFile =>
      rw [found] at absent
      cases absent
  | nameTooLong => exact ⟨iff_of_false nofun fun both => both.1 rfl, fun _ => rfl, nofun⟩
  | barred => exact ⟨iff_of_false nofun fun both => both.2 rfl, nofun, fun _ => rfl⟩
  | _ => exact ⟨iff_of_true document ⟨nofun, nofun⟩, nofun, nofun⟩

/-- A working directory that holds a directory with a strange name. -/
def desk : Disk where
  workingDirectory := ["desk"]
  entries := [(["desk", "\"a", "notes"], .file [])]
  library := ["library"]

def slashed : List Char := ['a', '/', 'b']

theorem desk_reads_literal :
    Json.read (Json.quoted slashed) = .ok (.text (String.ofList slashed) : Value) ∧
      (desk.lookup (Location.ofText (Json.quoted slashed))).isFile = false ∧
      ¬desk.IsTooLong (Location.ofText (Json.quoted slashed)) ∧
      ¬desk.IsBarred (Location.ofText (Json.quoted slashed)) ∧
      read desk (.text (Json.quoted slashed)) = .ok (.text (String.ofList slashed)) := by
  have plain : ∀ c ∈ slashed, Json.IsPlain c := by
    unfold slashed Json.IsPlain
    rw [List.forall_mem_cons, List.forall_mem_cons, List.forall_mem_singleton]
    and_intros <;> decide
  have valid : Json.read (Json.quoted slashed) = .ok (.text (String.ofList slashed) : Value) :=
    Json.read_quoted plain
  have location : Location.ofText (Json.quoted slashed) = ⟨"", ["\"a", "b\""]⟩ := by
    decide +kernel
  have outer : desk.reached ["desk"] = .directory {} := rfl
  have inner : desk.reached (["desk"] ++ ["\"a"]) = .directory {} := rfl
  have missing : desk.lookup (Location.ofText (Json.quoted slashed)) = .missing := by
    rw [location, Files.lookup_walk desk.toFiles (by decide +kernel) (by decide +kernel)]
    change desk.walk ["desk"] ["\"a", "b\""] = .missing
    rw [desk.walk_directory _ _ outer rfl, if_neg (by decide), if_neg (by decide +kernel),
      desk.walk_directory _ _ inner rfl, if_neg (by decide), if_neg (by decide +kernel)]
    rfl
  have short : ¬desk.IsTooLong (Location.ofText (Json.quoted slashed)) := by
    rw [← Files.lookup_too_long_iff, missing]
    nofun
  have open' : ¬desk.IsBarred (Location.ofText (Json.quoted slashed)) := by
    rw [← Files.lookup_barred_iff, missing]
    nofun
  have absent : (desk.lookup (Location.ofText (Json.quoted slashed))).isFile = false := by
    rw [missing]
    rfl
  exact ⟨valid, absent, short, open', (literal_read_iff desk _ _ valid absent).1.mpr ⟨short, open'⟩⟩

def longWord : List Char := List.replicate 300 'a'

def longLiteral : String := Json.quoted longWord

theorem long_literal_chars :
    ∀ c ∈ longLiteral.toList, c = '"' ∨ c = 'a' := by
  intro c member
  rw [longLiteral, Json.quoted, String.toList_ofList, List.mem_cons, List.mem_append,
    List.mem_singleton] at member
  rcases member with opening | word | closing
  · exact Or.inl opening
  · exact Or.inr (List.mem_replicate.mp word).2
  · exact Or.inl closing

/-- A well-written document that is not read, although nothing has its name. -/
theorem desk_refuses_literal :
    Json.read longLiteral = .ok (.text (String.ofList longWord) : Value) ∧
      (desk.lookup (Location.ofText longLiteral)).isFile = false ∧
      read desk (.text longLiteral) = .error .nameTooLong := by
  have plain : ∀ c ∈ longWord, Json.IsPlain c := by
    intro c member
    rw [(List.mem_replicate.mp member).2]
    exact ⟨by decide, by decide, by decide⟩
  have without : ∀ c, c ≠ '"' → c ≠ 'a' → c ∉ longLiteral.toList := by
    intro c notQuote notLetter member
    exact (long_literal_chars c member).elim notQuote notLetter
  have long : Files.longestName < longLiteral.utf8ByteSize := by decide +kernel
  have tooLong : desk.lookup (Location.ofText longLiteral) = .nameTooLong := by
    rw [Files.lookup_too_long_iff]
    exact desk.too_long_of_name (without '/' (by decide) (by decide))
      (without _ (by decide) (by decide)) long rfl rfl
  refine ⟨Json.read_quoted plain, ?_, ?_⟩
  · rw [tooLong]
    rfl
  · rw [read, tooLong]
    rfl

end Source

end DocumentRules
