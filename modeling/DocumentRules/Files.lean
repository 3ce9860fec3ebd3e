import DocumentRules.Text.Joined
import DocumentRules.Text.Utf8

/-!
A file system of regular files and directories, as far as it can be seen by looking up
a path. A path is followed from the root or from the working directory, one name at a
time; where it leads depends on every place on the way, and a directory may refuse to
have names looked up in it. Names and paths have greatest lengths, counted in bytes.
What a file holds is a parameter.
-/

set_option autoImplicit false

namespace DocumentRules

open Text

/-- What may be done with a directory. -/
structure Access where
  /-- It may be opened. -/
  readable : Bool := true
  /-- Names may be looked up in it. -/
  searchable : Bool := true
  deriving DecidableEq, Repr

inductive FileEntry (α : Type) where
  | file (contents : α)
  /-- A file that may not be opened. -/
  | closedFile
  | directory (access : Access)

/-- Entries by the names that lead to them from the root. Directories that hold an entry need
not be listed, and nothing is refused in those that are not. -/
structure Files (α : Type) where
  workingDirectory : List String
  entries : List (List String × FileEntry α)

inductive Lookup (α : Type) where
  | file (contents : α)
  | closedFile
  | directory (access : Access)
  | missing
  /-- A name in front of the last one leads to a regular file. -/
  | belowFile
  | nameTooLong
  /-- A directory on the way refuses to have the next name looked up in it. -/
  | barred
  /-- The path holds a zero character. -/
  | zeroCharacter

/-- Whether a path leads to a regular file, be it one that may be opened or not. -/
def Lookup.isFile {α : Type} : Lookup α → Bool
  | .file _ => true
  | .closedFile => true
  | _ => false

/-- A path in its shortest spelling: names that say nothing are left out. -/
structure Location where
  root : String
  names : List String
  deriving DecidableEq, Repr

namespace Location

def rootOf (text : List Char) : String :=
  match text with
  | '/' :: '/' :: '/' :: _ => "/"
  | '/' :: '/' :: _ => "//"
  | '/' :: _ => "/"
  | _ => ""

def namesOf (text : List Char) : List String :=
  ((cutAt '/' text).map String.ofList).filter fun name => name != "" && name != "."

def ofText (text : String) : Location := ⟨rootOf text.toList, namesOf text.toList⟩

def joinedNames (names : List String) : String :=
  String.ofList (joined ['/'] (names.map String.toList))

def text (location : Location) : String :=
  let written := location.root ++ joinedNames location.names
  if written = "" then "." else written

/-- The last name of a path, or nothing. -/
def name (location : Location) : String := location.names.getLast?.getD ""

def isRooted (location : Location) : Bool := location.root != ""

end Location

namespace Files

variable {α : Type}

def longestName : Nat := 255

def longestPath : Nat := 4095

def holdsDirectory (files : Files α) (names : List String) : Bool :=
  names.isPrefixOf files.workingDirectory ||
    files.entries.any fun entry => names.isPrefixOf entry.1 && names.length < entry.1.length

def entryAt? (files : Files α) (names : List String) : Option (FileEntry α) :=
  match files.entries.find? fun entry => entry.1 == names with
  | some entry => some entry.2
  | none => if files.holdsDirectory names then some (.directory {}) else none

/-- What is found at a place itself. -/
def reached (files : Files α) (here : List String) : Lookup α :=
  match files.entryAt? here with
  | some (.file contents) => .file contents
  | some .closedFile => .closedFile
  | some (.directory access) => .directory access
  | none => .missing

/-- Where a name leads from a place, or how a walk ends at it. -/
def onward (files : Files α) (here : List String) (name : String) :
    Except (Lookup α) (List String) :=
  match files.reached here with
  | .directory access =>
      if !access.searchable then .error .barred
      else if name = ".." then .ok here.dropLast
      else if longestName < name.utf8ByteSize then .error .nameTooLong
      else .ok (here ++ [name])
  | .missing => .error .missing
  | _ => .error .belowFile

def walk (files : Files α) : (here : List String) → List String → Lookup α
  | here, [] => files.reached here
  | here, name :: rest =>
      match files.onward here name with
      | .ok next => walk files next rest
      | .error ended => ended

def lookupNames (files : Files α) (written : String) (rooted : Bool) (names : List String) :
    Lookup α :=
  if written.toList.contains (Char.ofNat 0) then .zeroCharacter
  else if longestPath < written.utf8ByteSize then .nameTooLong
  else files.walk (if rooted then [] else files.workingDirectory) names

def lookup (files : Files α) (location : Location) : Lookup α :=
  files.lookupNames location.text location.isRooted location.names

/-- Looks up a path as it is written: the empty path leads nowhere, and a slash at the end
asks for a directory. -/
def lookupWritten (files : Files α) (path : String) : Lookup α :=
  if path = "" then .missing
  else
    let location := Location.ofText path
    let found := files.lookupNames path location.isRooted location.names
    if found.isFile && path.toList.getLast? = some '/' then .belowFile else found

end Files

end DocumentRules
