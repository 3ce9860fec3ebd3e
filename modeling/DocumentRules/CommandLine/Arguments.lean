import DocumentRules.CommandLine.Options
import DocumentRules.Document
import DocumentRules.Format.Line
import DocumentRules.Text.Lines

/-!
Reading the arguments of the command line. An argument that begins with an at sign is
first replaced by the lines of the file it names. Then every argument is told to be a
word or an option, where a long option may be cut short as long as it is clear which
one is meant; behind a double dash all arguments are words. Options take the word
behind them, the first word that is left is the input, and further words are extra.
-/

set_option autoImplicit false

namespace DocumentRules.CommandLine

open Text

inductive Stop where
  | help
  | version
  | refused (error : UsageError)
  | faulty (fault : Fault)

/-! ## Files of arguments -/

/-- Files of arguments may name further ones, up to a depth. -/
def greatestInclusion : Nat := 900

def argumentFile (disk : Disk) (path : String) : Except Stop String :=
  match opened path (disk.lookupWritten path) with
  | .ok bytes =>
      match fileText bytes with
      | .ok text => .ok text
      | .error refusal => .error (.faulty (.source (.undecodable refusal)))
  | .error .zeroCharacter => .error (.faulty (.source .zeroCharacter))
  | .error (.missing path) => .error (.refused (.unopened (SourceFault.missing path).message))
  | .error fault => .error (.refused (.unopened (fault.message ++ ": " ++ quoted path)))

def expandOne (disk : Disk) : (depth : Nat) → String → Except Stop (List String)
  | depth, argument =>
      match argument.toList with
      | '@' :: path =>
          match depth with
          | 0 => .error (.faulty (.source .endlessInclusion))
          | depth + 1 => do
              let text ← argumentFile disk (String.ofList path)
              let lines := (linesOf text.toList).map String.ofList
              let parts ← lines.mapM (expandOne disk depth)
              return parts.flatten
      | _ => .ok [argument]

def expand (disk : Disk) (arguments : List String) : Except Stop (List String) := do
  let parts ← arguments.mapM (expandOne disk greatestInclusion)
  return parts.flatten

/-! ## Words and options -/

inductive Attached where
  | afterEquals (text : String)
  /-- What follows the letter of a short option. -/
  | afterLetter (text : String)

inductive Token where
  | word (text : String)
  | mark
  | switch (switch : Switch) (attached : Option Attached)
  /-- An argument that looks like an option but is none. -/
  | stray (text : String)

/-- A text up to its first equals sign, and what comes behind that. -/
def splitAtEquals (text : List Char) : List Char × Option (List Char) :=
  match text.span (· != '=') with
  | (before, []) => (before, none)
  | (before, _ :: after) => (before, some after)

/-- A negative number is a word. -/
def isNegativeNumber (text : List Char) : Bool :=
  match Format.lineOf text with
  | '-' :: body =>
      match body.span Format.isAnyDigit with
      | (digits, []) => !digits.isEmpty
      | (_, '.' :: fraction) => Format.isRun Format.isAnyDigit fraction
      | _ => false
  | _ => false

/-- The options that a text may stand for, with their spellings: a long option by its
beginning, a short one by its letter. -/
def candidates (text : List Char) : List (String × Switch × Option Attached) :=
  match text with
  | '-' :: '-' :: _ =>
      let (beginning, attached) := splitAtEquals text
      Switch.spellings.filterMap fun (spelling, switch) =>
        if beginning.isPrefixOf spelling.toList then
          some (spelling, switch, attached.map fun part => .afterEquals (String.ofList part))
        else none
  | _ =>
      Switch.spellings.filterMap fun (spelling, switch) =>
        if spelling.toList = text.take 2 then
          some (spelling, switch, some (.afterLetter (String.ofList (text.drop 2))))
        else none

/-- What an argument stands for that is no option in full. -/
def guess (written : String) : Except UsageError Token :=
  let text := written.toList
  match candidates text with
  | [(_, switch, attached)] => .ok (.switch switch attached)
  | [] =>
      .ok (if isNegativeNumber text || text.contains ' ' then .word written else .stray written)
  | several => .error (.ambiguous written (several.map fun candidate => candidate.1))

/-- The option and its argument in a text with an equals sign. -/
def fullOption? (text : List Char) : Option Token :=
  match splitAtEquals text with
  | (spelling, some argument) =>
      (Switch.ofSpelling? (String.ofList spelling)).map fun switch =>
        .switch switch (some (.afterEquals (String.ofList argument)))
  | (_, none) => none

def tokenOf (written : String) : Except UsageError Token :=
  match written.toList with
  | '-' :: rest =>
      match Switch.ofSpelling? written with
      | some switch => .ok (.switch switch none)
      | none =>
          if rest.isEmpty then .ok (.word written)
          else
            match fullOption? ('-' :: rest) with
            | some token => .ok token
            | none => guess written
  | _ => .ok (.word written)

def tokens : List String → Except UsageError (List Token)
  | [] => .ok []
  | argument :: rest =>
      if argument = "--" then .ok (.mark :: rest.map .word)
      else do
        let token ← tokenOf argument
        let later ← tokens rest
        return token :: later

/-! ## Taking the tokens -/

structure Arguments where
  schema : String
  input : Option String
  format : ReportFormat
  verbosity : Verbosity

/-- What has been taken so far. The place of the input may have passed without one. -/
structure Taken where
  schema : Option String := none
  input : Option (Option String) := none
  format : ReportFormat := .json
  verbosity : Verbosity := .warning
  extras : List String := []

namespace Taken

def withExtra (taken : Taken) (text : String) : Taken :=
  { taken with extras := taken.extras ++ [text] }

def withInput (taken : Taken) (input : Option String) : Taken :=
  { taken with input := some input }

/-- Gives an option its argument, which may have to be one of a few. -/
def give (taken : Taken) (switch : Switch) (argument : String) : Except UsageError Taken :=
  match switch with
  | .schema => .ok { taken with schema := some argument }
  | .format =>
      match ReportFormat.all.find? fun format => format.name = argument with
      | some format => .ok { taken with format := format }
      | none =>
          .error (.invalidChoice switch argument (ReportFormat.all.map ReportFormat.name))
  | .verbosity =>
      match Verbosity.all.find? fun verbosity => verbosity.name = argument with
      | some verbosity => .ok { taken with verbosity := verbosity }
      | none => .error (.invalidChoice switch argument (Verbosity.all.map Verbosity.name))
  | _ => .error (.ignoredArgument switch argument)

/-- The letters behind the short option for help. More of the same letter ask for the same,
and a letter that is no option is passed over. -/
def helpLetters : List Char → Stop
  | [] => .help
  | c :: rest =>
      if c = '-' then .refused (.ignoredArgument .help (String.ofList (c :: rest)))
      else if c = 'h' then
        match rest with
        | '=' :: argument => .refused (.ignoredArgument .help (String.ofList argument))
        | _ => helpLetters rest
      else .help

/-- What an option without an argument does. -/
def stopFor (switch : Switch) : Option Attached → Stop
  | none => if switch = .help then .help else .version
  | some (.afterEquals argument) => .refused (.ignoredArgument switch argument)
  | some (.afterLetter letters) => helpLetters letters.toList

def refuse {α : Type} (outcome : Except UsageError α) : Except Stop α :=
  match outcome with
  | .ok value => .ok value
  | .error error => .error (.refused error)

def attachedText : Attached → String
  | .afterEquals text => text
  | .afterLetter text => text

def take : Taken → List Token → Except Stop Taken
  | taken, [] => .ok taken
  | taken, .stray text :: rest => take (taken.withExtra text) rest
  | taken, .word text :: .mark :: rest =>
      if taken.input.isNone then take (taken.withInput (some text)) rest
      else take ((taken.withExtra text).withExtra "--") rest
  | taken, .word text :: rest =>
      if taken.input.isNone then take (taken.withInput (some text)) rest
      else take (taken.withExtra text) rest
  | taken, .mark :: .word text :: rest =>
      if taken.input.isNone then take (taken.withInput (some text)) rest
      else take ((taken.withExtra "--").withExtra text) rest
  | taken, .mark :: rest =>
      if taken.input.isNone then take (taken.withInput none) rest
      else take (taken.withExtra "--") rest
  | taken, .switch switch (some attached) :: rest =>
      if switch.takesArgument then do
        let given ← refuse (taken.give switch (attachedText attached))
        take given rest
      else .error (stopFor switch (some attached))
  | taken, .switch switch none :: .word text :: rest =>
      if switch.takesArgument then do
        let given ← refuse (taken.give switch text)
        take given rest
      else .error (stopFor switch none)
  | _, .switch switch none :: _ =>
      if switch.takesArgument then .error (.refused (.expectedArgument switch))
      else .error (stopFor switch none)

/-- A contract has to be named, and nothing may be left over. -/
def complete (taken : Taken) : Except UsageError Arguments :=
  match taken.schema with
  | none => .error .missingSchema
  | some schema =>
      if taken.extras.isEmpty then
        .ok ⟨schema, taken.input.getD none, taken.format, taken.verbosity⟩
      else .error (.unrecognized taken.extras)

end Taken

def readArguments (disk : Disk) (arguments : List String) : Except Stop Arguments := do
  let expanded ← expand disk arguments
  let tokens ← Taken.refuse (tokens expanded)
  let taken ← Taken.take {} tokens
  Taken.refuse taken.complete

end DocumentRules.CommandLine
