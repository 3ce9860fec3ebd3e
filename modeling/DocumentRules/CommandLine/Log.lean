import DocumentRules.CommandLine.Options

/-!
The log: messages with a weight and the part of the library they come from. A message
is written when it weighs at least as much as was asked for.
-/

set_option autoImplicit false

namespace DocumentRules.CommandLine

/-- The parts of the library that speak in the log. -/
inductive LogPart where
  | documents
  | schemas
  | checks
  | program
  deriving DecidableEq, Repr

def LogPart.name : LogPart → String
  | .documents => "payload_schema.loader"
  | .schemas => "payload_schema.schema"
  | .checks => "payload_schema.validator"
  | .program => "payload_schema.parser"

structure LogMessage where
  verbosity : Verbosity
  part : LogPart
  text : String

namespace LogMessage

def longestName : Nat := 8

def padded (name : String) : String :=
  name ++ String.ofList (List.replicate (longestName - name.length) ' ')

def line (message : LogMessage) : String :=
  padded message.verbosity.name ++ " " ++ message.part.name ++ ": " ++ message.text ++ "\n"

end LogMessage

def written (verbosity : Verbosity) (log : List LogMessage) : List LogMessage :=
  log.filter fun message => verbosity.weight ≤ message.verbosity.weight

end DocumentRules.CommandLine
