import DocumentRules.Bundle
import DocumentRules.Fault

/-!
Finding and reading documents. A contract is looked for where its path leads, then
among the bundled documents under the last name of its path, and then there under the
whole path. What a value is to be read from is a value, a path, or a text that is a
path if it leads to a file and a document otherwise.
-/

set_option autoImplicit false

namespace DocumentRules

open Text

variable {κ : Type}

/-- Reads a document, naming where it came from if it cannot be read. -/
def readDocument (origin : String) (text : String) : Except SourceFault (Datum κ) :=
  match Json.read text with
  | .ok datum => .ok datum
  | .error refusal => .error (.unreadable origin refusal)

def readBytes (origin : String) (bytes : List UInt8) : Except SourceFault (Datum κ) :=
  match fileText bytes with
  | .ok text => readDocument origin text
  | .error refusal => .error (.undecodable refusal)

/-- A document that has been found but not read, with the words that tell where. -/
inductive FoundDocument where
  | onDisk (origin : String) (bytes : List UInt8)
  | bundled (name : String) (bytes : List UInt8)

namespace FoundDocument

def read : FoundDocument → Except SourceFault (Datum κ)
  | .onDisk origin bytes => readBytes origin bytes
  | .bundled name bytes => readBytes name bytes

end FoundDocument

/-- The contents of the file that a path leads to, or nothing where it leads to none. A name that
is too long is a fault, and so is what may not be looked at. -/
def fileAt? {α : Type} : Lookup α → Except SourceFault (Option α)
  | .file contents => .ok (some contents)
  | .closedFile => .error .denied
  | .nameTooLong => .error .nameTooLong
  | .barred => .error .denied
  | _ => .ok none

def opened {α : Type} (path : String) : Lookup α → Except SourceFault α
  | .file contents => .ok contents
  | .closedFile => .error .denied
  | .directory access => .error (if access.readable then .directory else .denied)
  | .missing => .error (.missing path)
  | .belowFile => .error .belowFile
  | .nameTooLong => .error .nameTooLong
  | .barred => .error .denied
  | .zeroCharacter => .error .zeroCharacter

/-- Opens a candidate among the bundled documents. A candidate that is missing or a directory
gives way to the next one. -/
def bundledCandidate? (disk : Disk) (name : String) : Except SourceFault (Option FoundDocument) :=
  match opened name (disk.lookup (disk.inLibrary (Location.ofText name))) with
  | .ok bytes => .ok (some (.bundled name bytes))
  | .error (.missing _) => .ok none
  | .error .directory => .ok none
  | .error fault => .error fault

def locateDocument (disk : Disk) (path : String) : Except SourceFault FoundDocument := do
  let location := Location.ofText path
  match ← fileAt? (disk.lookup location) with
  | some bytes => return .onDisk location.text bytes
  | none =>
      match ← bundledCandidate? disk location.name with
      | some document => return document
      | none =>
          match ← bundledCandidate? disk path with
          | some document => return document
          | none => throw (.unknownSchema path)

def loadDocument (disk : Disk) (path : String) : Except SourceFault (Datum κ) :=
  (locateDocument disk path).bind FoundDocument.read

/-- What a value is to be read from. -/
inductive Source where
  | given (value : Value)
  | text (written : String)
  | path (location : Location)

namespace Source

def read (disk : Disk) : Source → Except SourceFault Value
  | .given value =>
      if value.isContainer then .ok value else .error (.unsupported value.kindName)
  | .path location => do
      let bytes ← opened location.text (disk.lookup location)
      readBytes location.text bytes
  | .text written => do
      match ← fileAt? (disk.lookup (Location.ofText written)) with
      | some bytes => readBytes written bytes
      | none => readDocument "input" written

end Source

end DocumentRules
