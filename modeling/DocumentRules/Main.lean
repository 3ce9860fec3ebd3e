import DocumentRules.CommandLine.Program
import Std.Time.Format

/-!
The program on a real machine. The places that the arguments and the input can name
are looked up beforehand; the run itself sees only what was found there. Log lines are
written with the time of the end of the run.
-/

set_option autoImplicit false

namespace DocumentRules.CommandLine

/-- What an action gives, or else nothing. An action that is not permitted stands for something
too. -/
def attempt {α : Type} (refused : α) (action : IO α) : IO (Option α) := do
  try return some (← action)
  catch
    | .permissionDenied .. => return some refused
    | _ => return none

/-- What stands at a place, if it is a regular file or a directory. -/
def lookUp (path : String) : IO (Option (FileEntry (List UInt8))) := do
  if path.toList.contains (Char.ofNat 0) then return none
  try
    let place ← IO.FS.realPath path
    match (← place.metadata).type with
    | .dir =>
        let readable ← attempt false (do let _ ← place.readDir; return true)
        let searchable ← attempt false (do let _ ← IO.FS.realPath (place / "."); return true)
        return some (.directory ⟨readable.getD true, searchable.getD true⟩)
    | .file => attempt .closedFile (do return .file (← IO.FS.readBinFile path).toList)
    | _ => return none
  catch _ => return none

/-- The places on the way along a path, as far as it can be followed. -/
partial def follow (here : List String) :
    List String → IO (List (List String × FileEntry (List UInt8)))
  | [] => return []
  | name :: rest => do
      let place := if name = ".." then here.dropLast else here ++ [name]
      match ← lookUp ("/" ++ Location.joinedNames place) with
      | none => return []
      | some entry =>
          let later ← follow place rest
          return (place, entry) :: later

/-- The texts in an argument that may be paths. -/
def pathsIn (argument : String) : List String :=
  match splitAtEquals argument.toList with
  | (_, some after) => [argument, String.ofList after]
  | (_, none) => [argument]

/-- Where the bundled documents are put for a run. -/
def library : List String := ["usr", "share", "document-rules"]

/-- The places on the way along a path, from the working directory and from the bundled
documents. -/
def entriesFor (here : List String) (path : String) :
    IO (List (List String × FileEntry (List UInt8))) := do
  let location := Location.ofText path
  if location.isRooted then follow [] location.names
  else return (← follow here location.names) ++ (← follow library location.names)

/-- The places that arguments can name, those in files of arguments included. -/
partial def entriesForAll (here : List String) (known : List String) :
    List String → IO (List (List String × FileEntry (List UInt8)))
  | [] => return []
  | argument :: rest => do
      if known.contains argument then entriesForAll here known rest
      else
        match argument.toList with
        | '@' :: path => do
            let path := String.ofList path
            let entries ← entriesFor here path
            let lines :=
              match argumentFile (Bundle.install ⟨here, entries⟩ library) path with
              | .ok text => (Text.linesOf text.toList).map String.ofList
              | .error _ => []
            let later ← entriesForAll here (argument :: known) (lines ++ rest)
            return entries ++ later
        | _ => do
            let entries ← (pathsIn argument).mapM (entriesFor here)
            let later ← entriesForAll here (argument :: known) rest
            return entries.flatten ++ later

partial def readToEnd (stream : IO.FS.Stream) (bytes : List UInt8) : IO (List UInt8) := do
  let more ← stream.read 65536
  if more.isEmpty then return bytes
  readToEnd stream (bytes ++ more.toList)

/-- What stands on the standard input stream, which is read only where the arguments name no
input. -/
def standardInput (disk : Disk) (arguments : List String) : IO (List UInt8) := do
  match readArguments disk arguments with
  | .ok taken =>
      if taken.input.isNone then readToEnd (← IO.getStdin) [] else return []
  | .error _ => return []

def clockText : IO String := do
  let now ← Std.Time.PlainDateTime.now
  return now.format "uuuu-MM-dd HH:mm:ss,SSS"

def writeResult (result : Result) : IO UInt32 := do
  let clock ← clockText
  for message in result.log do
    IO.eprint (clock ++ " " ++ message.line)
  IO.eprint result.complaint
  IO.print result.output
  return UInt32.ofNat result.status

def runHere (arguments : List String) : IO UInt32 := do
  let current ← IO.currentDir
  let here := (Location.ofText current.toString).names
  let named ← entriesForAll here [] arguments
  let input ← standardInput (Bundle.install ⟨here, named⟩ library) arguments
  let further ← entriesFor here ((Text.streamText input).toOption.getD "")
  match run (Bundle.install ⟨here, named ++ further⟩ library) arguments input with
  | .ok result => writeResult result
  | .error fault =>
      IO.eprintln fault.message
      return 1

end DocumentRules.CommandLine

def main (arguments : List String) : IO UInt32 :=
  DocumentRules.CommandLine.runHere arguments
