import DocumentRules.Document
import DocumentRules.Proofs.Files.Lookups
import DocumentRules.Proofs.Text.Plain

/-!
What the file of the bundled contract says, and where it is found.
-/

set_option autoImplicit false

namespace DocumentRules

variable {κ : Type}

/-- What is read of the characters of a text is read of the text. -/
theorem Json.read_of_chars {text : String} {datum : Datum κ}
    (whole : readWhole text.toList = .ok datum) : read text = .ok datum := by
  rw [read, whole]
  rfl

theorem read_document_ok {text : String} {datum : Datum κ} (origin : String)
    (read : Json.read text = .ok datum) : readDocument origin text = .ok datum := by
  rw [readDocument, read]

namespace Bundle

/-- The characters of the contract, line by line. -/
theorem contract_chars :
    contractText.toList = contractLines.flatMap fun line => line.toList ++ ['\n'] :=
  String.toList_ofList

theorem contract_file_text : Text.fileText (plainBytes contractText) = .ok contractText := by
  apply Text.file_text_plain
  simp only [contract_chars, contractLines, List.flatMap_cons, List.flatMap_nil]
  repeat rewrite [String.toList_ofList]
  decide +kernel

set_option maxRecDepth 20000 in
theorem read_contract_text :
    (Json.read contractText : Except Json.Refusal (Datum κ)) = .ok userPayload := by
  apply Json.read_of_chars
  simp only [contract_chars, contractLines, List.flatMap_cons, List.flatMap_nil]
  repeat rewrite [String.toList_ofList]
  rfl

theorem read_contract_bytes (origin : String) :
    (readBytes origin (plainBytes contractText) : Except SourceFault (Datum κ)) =
      .ok userPayload := by
  rw [readBytes, contract_file_text]
  exact read_document_ok origin read_contract_text

/-- Where the bundled documents lie right below the root, the contract is found by its name unless
files are in the way. -/
theorem library_contract (files : Files (List UInt8))
    (free : ∀ entry ∈ files.entries, entry.1 ≠ [] ∧ entry.1 ≠ ["library"]) :
    (install files ["library"]).lookup
        ((install files ["library"]).inLibrary (Location.ofText contractName)) =
      .file (plainBytes contractText) := by
  have root : (install files ["library"]).reached [] = .directory {} := by
    apply Files.reached_unlisted
    · simpa [install, entriesIn] using fun _ _ listed => (free _ listed).1
    · rfl
  have library : (install files ["library"]).reached ["library"] = .directory {} := by
    apply Files.reached_unlisted
    · simpa [install, entriesIn] using fun _ _ listed => (free _ listed).2
    · simp [Files.holdsDirectory, install, entriesIn]
  have place : (install files ["library"]).inLibrary (Location.ofText contractName) =
      ⟨"/", ["library", contractName]⟩ := rfl
  rw [place, Files.lookup_walk _ (by decide) (by decide)]
  change (install files ["library"]).walk [] ["library", contractName] = _
  rw [Files.walk_directory _ _ _ root rfl, if_neg (by decide), if_neg (by decide),
    List.nil_append, Files.walk_directory _ _ _ library rfl, if_neg (by decide),
    if_neg (by decide)]
  rfl

end Bundle

end DocumentRules
