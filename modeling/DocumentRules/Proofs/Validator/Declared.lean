import DocumentRules.Proofs.Check.Located
import DocumentRules.Proofs.Predicate.Breakdowns
import DocumentRules.Proofs.Rule.Declarations
import DocumentRules.Proofs.Validator.Violations

/-!
Validators that are declared by documents. Nothing in a document can be called, so such a
validator has a known name; its predicate settles, and its arguments are documents again.
The steps of a rule that documents declare are type tests and validators of this kind.
-/

set_option autoImplicit false

namespace DocumentRules

namespace Datum

variable {κ ι : Type}

theorem relabel_items_map (change : κ → ι) (items : List (Datum κ)) :
    relabelItems change items = items.map (relabel change) := by
  induction items with
  | nil => rfl
  | cons item rest induction => rw [relabelItems, induction, List.map_cons]

theorem relabel_entries_map (change : κ → ι) (entries : List (String × Datum κ)) :
    relabelEntries change entries = entries.map fun entry => (entry.1, entry.2.relabel change) := by
  induction entries with
  | nil => rfl
  | cons entry rest induction =>
      obtain ⟨key, item⟩ := entry
      rw [relabelEntries, induction, List.map_cons]

theorem IsDocument.relabel (change : κ → ι) {datum : Datum κ} (document : datum.IsDocument) :
    (datum.relabel change).IsDocument := by
  induction document with
  | null => exact .null
  | bool truth => exact .bool truth
  | integer short => exact .integer short
  | float kept => exact .float kept
  | text value => exact .text value
  | list each induction =>
      rw [Datum.relabel, relabel_items_map, list_document_iff, List.forall_mem_map]
      exact induction
  | mapping distinct each induction =>
      rw [Datum.relabel, relabel_entries_map, mapping_document_iff, List.map_map,
        List.forall_mem_map]
      exact ⟨distinct, induction⟩

end Datum

namespace Validator

/-- A validator that is declared by a document: its predicate settles, it is not the author's
own, and its arguments are documents. -/
structure IsDeclared (validator : Validator) : Prop where
  settled : validator.predicate.IsSettled
  known : validator.form ≠ .adHoc
  arguments : ∀ argument ∈ validator.arguments, argument.IsDocument

theorem of_entry_declared {name : String} {entry : RegistryEntry} {given : Declaration}
    (settled : entry.predicate.IsSettled) (document : given.IsDocument) :
    (ofEntry name entry given).IsDeclared := by
  unfold ofEntry
  split
  · exact ⟨settled, nofun, fun _ none => absurd none List.not_mem_nil⟩
  · rename_i items
    refine ⟨settled, nofun, ?_⟩
    rw [List.forall_mem_map]
    exact fun item inside => ((Datum.list_document_iff _).mp document item inside).relabel _
  · refine ⟨settled, nofun, ?_⟩
    rw [List.forall_mem_singleton]
    exact document.relabel _

theorem declared_of_resolve {name : String} {given : Declaration} {validator : Validator}
    (document : given.IsDocument) (resolved : resolve bundledOnly name given = .ok validator) :
    validator.IsDeclared := by
  unfold resolve at resolved
  split at resolved
  · rename_i entry known
    cases resolved
    exact of_entry_declared (Registry.resolved_settled known) document
  · split at resolved
    · cases document
    · cases resolved

end Validator

namespace CheckStep

/-- The step tests a type that has a name, or calls a predicate as a document declares it. -/
def IsDeclared : CheckStep → Prop
  | .typeTest typeName => ∃ tag : TypeTag, typeName = .text tag.name
  | .predicateCall validator => validator.IsDeclared

theorem of_rule_declared {rule : Rule} (documents : Schema.ValidatedByDocuments rule.validation)
    {steps : List CheckStep} (made : ofRule bundledOnly rule = .ok steps) :
    ∀ step ∈ steps, step.IsDeclared := by
  intro step member
  rcases mem_of_rule made member with
    ⟨tag, rfl⟩ | ⟨name, given, validator, listed, resolved, rfl⟩
  · exact ⟨tag, rfl⟩
  · exact Validator.declared_of_resolve (documents _ listed) resolved

end CheckStep

end DocumentRules
