import DocumentRules.CommandLine.Program
import DocumentRules.Proofs.Json.Documents

/-!
What is loaded and read for the program. The schema of a contract and the value to be
checked come out of the reader, so they are documents. Of the faults on the way, only
those of a search are not reported: a name that is too long, a file in the place of a
directory, and what may not be opened or searched.
-/

set_option autoImplicit false

namespace DocumentRules

open CommandLine DocumentRules.Bundle

variable {κ : Type}

/-! ## What is read -/

theorem read_text_document {origin text : String} {datum : Datum κ}
    (made : readDocument origin text = .ok datum) : datum.IsDocument := by
  unfold readDocument at made
  split at made
  · rename_i own read
    cases made
    exact Json.read_document read
  · cases made

theorem read_bytes_document {origin : String} {bytes : List UInt8} {datum : Datum κ}
    (made : readBytes origin bytes = .ok datum) : datum.IsDocument := by
  unfold readBytes at made
  split at made
  · exact read_text_document made
  · cases made

theorem FoundDocument.read_is_document {found : FoundDocument} {datum : Datum κ}
    (made : found.read = .ok datum) : datum.IsDocument := by
  cases found with
  | onDisk origin bytes => exact read_bytes_document made
  | bundled name bytes => exact read_bytes_document made

theorem Source.read_is_document {disk : Disk} {written : String} {value : Value}
    (made : (Source.text written).read disk = .ok value) : value.IsDocument := by
  rw [Source.read] at made
  obtain ⟨found, _, made⟩ := Run.except_bind_ok made
  cases found with
  | some bytes => exact read_bytes_document made
  | none => exact read_text_document made

/-- A contract holds a document as its schema, and the registry that was handed over. -/
theorem Contract.of_load {disk : Disk} {path : String} {registry : Option Registry}
    {contract : Contract} (loaded : Contract.load disk path registry = .ok contract) :
    contract.schema.IsDocument ∧ contract.registry = registry := by
  unfold Contract.load at loaded
  split at loaded
  · rename_i document read
    obtain ⟨found, _, made⟩ := Run.except_bind_ok read
    have own := FoundDocument.read_is_document made
    unfold Contract.ofDocument at loaded
    split at loaded
    · unfold Contract.make at loaded
      split at loaded
      · rename_i entries schema
        cases loaded
        exact ⟨schema ▸ own.get "schema", rfl⟩
      · cases loaded
    · cases loaded
  · cases loaded

/-! ## Faults -/

theorem read_document_reported {origin text : String} {fault : SourceFault}
    (made : (readDocument origin text : Except SourceFault (Datum κ)) = .error fault)
    (followed : Fault.isUnfollowed (.source fault) = false) :
    isReported (.source fault) = true := by
  unfold readDocument at made
  split at made
  · cases made
  · rename_i refusal _
    cases made
    cases refusal with
    | halfPair => cases followed
    | _ => rfl

theorem read_bytes_reported {origin : String} {bytes : List UInt8} {fault : SourceFault}
    (made : (readBytes origin bytes : Except SourceFault (Datum κ)) = .error fault)
    (followed : Fault.isUnfollowed (.source fault) = false) :
    isReported (.source fault) = true := by
  unfold readBytes at made
  split at made
  · exact read_document_reported made followed
  · cases made
    rfl

theorem FoundDocument.read_reported {found : FoundDocument} {fault : SourceFault}
    (made : (found.read : Except SourceFault (Datum κ)) = .error fault)
    (followed : Fault.isUnfollowed (.source fault) = false) :
    isReported (.source fault) = true := by
  cases found with
  | onDisk origin bytes => exact read_bytes_reported made followed
  | bundled name bytes => exact read_bytes_reported made followed

theorem Contract.of_document_reported {path : String} {document : Declaration}
    {registry : Option Registry} {fault : Fault}
    (made : Contract.ofDocument path document registry = .error fault) :
    isReported fault = true := by
  unfold Contract.ofDocument at made
  split at made
  · unfold Contract.make at made
    split at made
    · cases made
    · cases made
      rfl
  · cases made
    rfl

theorem opened_fault {α : Type} {path : String} {lookup : Lookup α} {fault : SourceFault}
    (made : opened path lookup = .error fault) :
    fault = .missing path ∨ fault = .directory ∨ fault = .belowFile ∨ fault = .nameTooLong ∨
      fault = .denied ∨ fault = .zeroCharacter := by
  cases lookup with
  | directory access =>
      rw [opened] at made
      split at made <;> cases made <;> simp
  | _ => cases made <;> simp

theorem bundled_candidate_fault {disk : Disk} {name : String} {fault : SourceFault}
    (made : bundledCandidate? disk name = .error fault) :
    fault = .belowFile ∨ fault = .nameTooLong ∨ fault = .denied ∨ fault = .zeroCharacter := by
  unfold bundledCandidate? at made
  split at made
  · cases made
  · cases made
  · cases made
  · rename_i own notMissing notDirectory found
    cases made
    rcases opened_fault found with missing | directory | others
    · exact absurd missing (notMissing name)
    · exact absurd directory notDirectory
    · exact others

/-- The search for a contract is at fault where it meets a name that is too long, a file in the
place of a directory, or what may not be opened or searched; every other fault of it is
reported. -/
theorem locate_fault {disk : Disk} {path : String} {fault : SourceFault}
    (made : locateDocument disk path = .error fault) :
    fault = .belowFile ∨ fault = .nameTooLong ∨ fault = .denied ∨
      isReported (.source fault) = true := by
  have ofCandidate {name : String} (failed : bundledCandidate? disk name = .error fault) :
      fault = .belowFile ∨ fault = .nameTooLong ∨ fault = .denied ∨
        isReported (.source fault) = true := by
    rcases bundled_candidate_fault failed with below | long | denied | zero
    · exact Or.inl below
    · exact Or.inr (Or.inl long)
    · exact Or.inr (Or.inr (Or.inl denied))
    · exact Or.inr (Or.inr (Or.inr (zero ▸ rfl)))
  unfold locateDocument at made
  dsimp only at made
  rcases Run.except_bind_error made with looked | ⟨file, _, made⟩
  · unfold fileAt? at looked
    split at looked <;> cases looked
    · exact Or.inr (Or.inr (Or.inl rfl))
    · exact Or.inr (Or.inl rfl)
    · exact Or.inr (Or.inr (Or.inl rfl))
  · cases file with
    | some bytes => cases made
    | none =>
        rcases Run.except_bind_error made with first | ⟨document, _, made⟩
        · exact ofCandidate first
        · cases document with
          | some found => cases made
          | none =>
              rcases Run.except_bind_error made with second | ⟨document, _, made⟩
              · exact ofCandidate second
              · cases document with
                | some found => cases made
                | none =>
                    cases made
                    exact Or.inr (Or.inr (Or.inr rfl))

end DocumentRules
