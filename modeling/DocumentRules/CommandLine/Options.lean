import DocumentRules.Text.Joined
import DocumentRules.Text.Quoted

/-!
The options of the command line, the words of its help, and what can be wrong about
its use.
-/

set_option autoImplicit false

namespace DocumentRules.CommandLine

open Text

inductive ReportFormat where
  | json
  | markdown
  deriving DecidableEq, Repr

def ReportFormat.name : ReportFormat → String
  | .json => "json"
  | .markdown => "markdown"

def ReportFormat.all : List ReportFormat := [.json, .markdown]

inductive Verbosity where
  | debug
  | info
  | warning
  | error
  deriving DecidableEq, Repr

namespace Verbosity

def name : Verbosity → String
  | .debug => "DEBUG"
  | .info => "INFO"
  | .warning => "WARNING"
  | .error => "ERROR"

def all : List Verbosity := [debug, info, warning, error]

def weight : Verbosity → Nat
  | .debug => 10
  | .info => 20
  | .warning => 30
  | .error => 40

end Verbosity

inductive Switch where
  | help
  | version
  | schema
  | format
  | verbosity
  deriving DecidableEq, Repr

namespace Switch

/-- Every spelling of every option, in the order of their declaration. -/
def spellings : List (String × Switch) :=
  [("-h", help), ("--help", help), ("--version", version), ("--schema", schema),
   ("--format", format), ("--verbosity", verbosity)]

def ofSpelling? (text : String) : Option Switch :=
  (spellings.find? fun spelling => spelling.1 = text).map Prod.snd

def takesArgument : Switch → Bool
  | .help => false
  | .version => false
  | _ => true

/-- All spellings of an option, as messages name it. -/
def title (switch : Switch) : String :=
  String.ofList
    (joined ['/'] ((spellings.filter fun spelling => spelling.2 = switch).map
      fun spelling => spelling.1.toList))

end Switch

def commaList (texts : List String) : String :=
  String.ofList (joined [',', ' '] (texts.map String.toList))

/-- What is wrong about the use of the command line. -/
inductive UsageError where
  | ambiguous (written : String) (matching : List String)
  | expectedArgument (switch : Switch)
  | ignoredArgument (switch : Switch) (argument : String)
  | invalidChoice (switch : Switch) (argument : String) (choices : List String)
  | missingSchema
  | unrecognized (arguments : List String)
  /-- A file of arguments that cannot be opened, with the words for the reason. -/
  | unopened (reason : String)

def UsageError.message : UsageError → String
  | .ambiguous written matching =>
      "ambiguous option: " ++ written ++ " could match " ++ commaList matching
  | .expectedArgument switch => "argument " ++ switch.title ++ ": expected one argument"
  | .ignoredArgument switch argument =>
      "argument " ++ switch.title ++ ": ignored explicit argument " ++ quoted argument
  | .invalidChoice switch argument choices =>
      "argument " ++ switch.title ++ ": invalid choice: " ++ quoted argument ++
        " (choose from " ++ commaList (choices.map quoted) ++ ")"
  | .missingSchema => "the following arguments are required: " ++ Switch.schema.title
  | .unrecognized arguments =>
      "unrecognized arguments: " ++
        String.ofList (joined [' '] (arguments.map String.toList))
  | .unopened reason => reason

def usage : String :=
  "usage: payload_schema [-h] [--version] --schema FILE\n" ++
  "                      [--format \x7bjson,markdown\x7d]\n" ++
  "                      [--verbosity \x7bDEBUG,INFO,WARNING,ERROR\x7d]\n" ++
  "                      [input]\n"

def UsageError.text (error : UsageError) : String :=
  usage ++ "payload_schema: error: " ++ error.message ++ "\n"

def versionText : String := "payload-schema 1.0.0\n"

def helpText : String :=
  usage ++
  "\nValidate a JSON payload against a payload-schema contract.\n" ++
  "\npositional arguments:\n" ++
  "  input                 JSON file or JSON literal to validate; read from stdin\n" ++
  "                        when omitted.\n" ++
  "\noptions:\n" ++
  "  -h, --help            show this help message and exit\n" ++
  "  --version             show program's version number and exit\n" ++
  "  --schema FILE         JSON contract (title/description/version/schema) on\n" ++
  "                        disk or bundled.\n" ++
  "  --format \x7bjson,markdown\x7d\n" ++
  "                        Error report format.\n" ++
  "  --verbosity \x7bDEBUG,INFO,WARNING,ERROR\x7d\n" ++
  "                        Logging level.\n"

end DocumentRules.CommandLine
