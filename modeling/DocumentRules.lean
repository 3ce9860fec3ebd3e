import DocumentRules.Main
import DocumentRules.Predicate.AdHoc
import DocumentRules.Sheet
import DocumentRules.Workspace
import DocumentRules.Proofs.Bundle.UserPayload
import DocumentRules.Proofs.Check.Offenders
import DocumentRules.Proofs.CommandLine.Report
import DocumentRules.Proofs.CommandLine.Status
import DocumentRules.Proofs.Document.Literals
import DocumentRules.Proofs.Json.RoundTrip
import DocumentRules.Proofs.Rule.Graphs
import DocumentRules.Proofs.Rule.Interpretation
import DocumentRules.Proofs.Walk.Located
import DocumentRules.Proofs.Bundle.Usernames
import DocumentRules.Proofs.Rule.Elements
import DocumentRules.Proofs.Sheet.Rows
import DocumentRules.Proofs.Registry.Histories
import DocumentRules.Proofs.Workspace.Checks
import DocumentRules.Proofs.Rule.Rereading
import DocumentRules.Proofs.Rule.Sites
import DocumentRules.Proofs.Rule.Spellings
import DocumentRules.Proofs.Validator.Order
import DocumentRules.Proofs.Rule.FirstFault
import DocumentRules.Proofs.Rule.Changes
import DocumentRules.Proofs.Check.FieldOrder
import DocumentRules.Proofs.Check.Strictness
import DocumentRules.Proofs.Check.Prefixes
import DocumentRules.Proofs.Check.Absence
import DocumentRules.Proofs.Check.EntryOrder
import DocumentRules.Proofs.Path.Codec
import DocumentRules.Proofs.Check.Raising
import DocumentRules.Proofs.Validator.Literals
import DocumentRules.Proofs.Format.Calendar
import DocumentRules.Proofs.Number.Hexadecimal
import DocumentRules.Proofs.Format.Uuid
import DocumentRules.Proofs.Format.Addresses
import DocumentRules.Proofs.Format.Locations
import DocumentRules.Proofs.Predicate.Formats
import DocumentRules.Proofs.Document.Search
import DocumentRules.Proofs.Card.Headings
