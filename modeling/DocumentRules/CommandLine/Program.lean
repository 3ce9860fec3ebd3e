import DocumentRules.Card
import DocumentRules.CommandLine.Arguments
import DocumentRules.CommandLine.Log
import DocumentRules.Contract
import DocumentRules.Json.Printer

/-!
The program: it loads a contract, reads a value and reports its violations. The status
is 0 for a value without violations and 1 for one with violations. It is 2 for a fault
that the program reports: a fault in the contract's schema, in the documents, or in
the use of the command line. Every other fault is left to the caller.
-/

set_option autoImplicit false

namespace DocumentRules.CommandLine

structure Result where
  status : Nat
  output : String
  log : List LogMessage := []
  /-- What is written to the standard error stream beside the log. -/
  complaint : String := ""

namespace Result

/-- All that goes to the standard error stream, with log lines that carry no time. -/
def errors (result : Result) : String :=
  result.log.foldr (fun message text => message.line ++ text) result.complaint

end Result

/-- Faults that the program reports by itself. -/
def isReported : Fault → Bool
  | .schema _ => true
  | .source (.missing _) => true
  | .source .zeroCharacter => true
  | .source (.undecodable _) => true
  | .source (.unreadable _ .halfPair) => false
  | .source (.unreadable ..) => true
  | .source (.unknownSchema _) => true
  | .source (.incompleteContract _) => true
  | .breakdown .tooManyDigits => true
  | .breakdown (.badPattern .conflictingFlags) => true
  | .breakdown (.badPattern (.tooManyDigits _)) => true
  | .breakdown (.failed ⟨.value, _⟩) => true
  | .breakdown (.failed ⟨.schema, _⟩) => true
  | _ => false

/-- How a run ended: with the violations of a value, or with a fault. -/
structure Finish where
  outcome : Except Fault (List Violation)
  log : List LogMessage

namespace Finish

def fault (log : List LogMessage) (fault : Fault) : Finish := ⟨.error fault, log⟩

def noun (count : Nat) (words : String) : String := Number.naturalText count ++ words

def loadingMessage : FoundDocument → LogMessage
  | .onDisk origin _ => ⟨.debug, .documents, "loading schema from " ++ origin⟩
  | .bundled name _ => ⟨.debug, .documents, "loading bundled schema " ++ name⟩

def tableMessage (entries : List TableEntry) : LogMessage :=
  ⟨.debug, .schemas,
    "flattened schema into " ++ noun entries.length " entries: " ++
      quotedList (entries.map TableEntry.key)⟩

def countMessage (value : Value) (found : List Violation) : LogMessage :=
  ⟨.debug, .checks,
    "validated " ++ value.kindName ++ ": " ++ noun found.length " error(s)"⟩

def check (log : List LogMessage) (contract : Contract) (value : Value) : Finish :=
  match contract.source.tableFor value with
  | .error found => .fault log found
  | .ok entries =>
      let tabled := log ++ [tableMessage entries]
      match (contract.check value).outcome with
      | .error found => .fault tabled found
      | .ok found => ⟨.ok found, tabled ++ [countMessage value found]⟩

def read (log : List LogMessage) (disk : Disk) (contract : Contract) (text : String) : Finish :=
  match (Source.text text).read disk with
  | .error found => .fault log (.source found)
  | .ok value => check log contract value

/-- The text to be checked: the input that is named, or else what stands on the standard input
stream. -/
def givenText (arguments : Arguments) (input : List UInt8) : Except SourceFault String :=
  match arguments.input with
  | some text => .ok text
  | none => (Text.streamText input).mapError .undecodable

/-- Loads the contract, reads the value and checks it. -/
def ofArguments (disk : Disk) (arguments : Arguments) (input : List UInt8) : Finish :=
  match locateDocument disk arguments.schema with
  | .error found => .fault [] (.source found)
  | .ok document =>
      let log := [loadingMessage document]
      match document.read with
      | .error found => .fault log (.source found)
      | .ok contents =>
          match Contract.ofDocument arguments.schema contents none with
          | .error found => .fault log found
          | .ok contract =>
              match givenText arguments input with
              | .error found => .fault log (.source found)
              | .ok text => read log disk contract text

end Finish

def report (format : ReportFormat) (found : List Violation) : String :=
  match format with
  | .json => Json.write Json.indented (Datum.list (found.map Violation.report)) ++ "\n"
  | .markdown => Card.write Card.standardLevel found ++ "\n"

def conclude (arguments : Arguments) (finish : Finish) : Except Fault Result :=
  let log (verbosity : Verbosity) (text : String) : List LogMessage :=
    written arguments.verbosity (finish.log ++ [⟨verbosity, .program, text⟩])
  match finish.outcome with
  | .ok [] => .ok { status := 0, output := "", log := log .info (arguments.schema ++ ": valid") }
  | .ok found =>
      let count := Finish.noun found.length " violation(s)"
      .ok {
        status := 1
        output := report arguments.format found
        log := log .info (arguments.schema ++ ": " ++ count) }
  | .error fault =>
      if isReported fault then
        .ok { status := 2, output := "", log := log .error fault.message }
      else .error fault

/-- Runs the program. The input is what stands on the standard input stream. -/
def run (disk : Disk) (arguments : List String) (input : List UInt8) : Except Fault Result :=
  match readArguments disk arguments with
  | .ok taken => conclude taken (.ofArguments disk taken input)
  | .error .help => .ok { status := 0, output := helpText }
  | .error .version => .ok { status := 0, output := versionText }
  | .error (.refused error) => .ok { status := 2, output := "", complaint := error.text }
  | .error (.faulty fault) => .error fault

end DocumentRules.CommandLine
