import DocumentRules.Proofs.Json.Documents
import DocumentRules.Proofs.Rule.Induction
import DocumentRules.Rule.Declared

/-!
Schemas that are read from documents. What stands beside the name of a validator, at any
depth, is part of the document, so it is a document again and can not be called.
-/

set_option autoImplicit false

namespace DocumentRules

namespace Schema

/-- What stands beside the names of validators are documents. -/
def ValidatedByDocuments (validation : Option Validation) : Prop :=
  ∀ entry ∈ validation.getD [], entry.2.IsDocument

mutual

/-- The validators at every depth are declared by documents. -/
def MadeOfDocuments : List (String × Rule) → Prop
  | [] => True
  | (_, rule) :: rest => RuleMadeOfDocuments rule ∧ MadeOfDocuments rest

def RuleMadeOfDocuments : Rule → Prop
  | ⟨_, _, validation, none, _⟩ => ValidatedByDocuments validation
  | ⟨_, _, validation, some inner, _⟩ => ValidatedByDocuments validation ∧ MadeOfDocuments inner

end

theorem RuleMadeOfDocuments.own {rule : Rule} (made : RuleMadeOfDocuments rule) :
    ValidatedByDocuments rule.validation := by
  obtain ⟨tag, allowNull, validation, fields, enforced⟩ := rule
  cases fields with
  | none => exact made
  | some inner => exact made.1

theorem read_validation_documents {place : String} {given : Declaration}
    (document : given.IsDocument) {validation : Option Validation}
    (read : RuleHead.readValidation place given = .ok validation) :
    ValidatedByDocuments validation := by
  unfold RuleHead.readValidation at read
  split at read
  · cases read
    exact fun _ inside => absurd inside List.not_mem_nil
  · cases read
    cases document with
    | mapping distinct each => exact each
  · cases read

theorem read_head_documents {place : String} {given : Declaration} (document : given.IsDocument)
    {head : RuleHead} (read : RuleHead.read place given = .ok head) :
    ValidatedByDocuments head.validation := by
  unfold RuleHead.read at read
  split at read
  · obtain ⟨tag, _, read⟩ := Run.except_bind_ok read
    obtain ⟨validation, own, read⟩ := Run.except_bind_ok read
    obtain ⟨hasFields, _, read⟩ := Run.except_bind_ok read
    cases read
    exact read_validation_documents (document.get "validate") own
  · cases read

mutual

theorem read_rules_documents : ∀ (place : String) (entries : List (String × Declaration))
    (schema : Schema), (∀ entry ∈ entries, entry.2.IsDocument) →
      readRules place entries = .ok schema → MadeOfDocuments schema
  | place, [], schema, _, read => by
      cases read
      trivial
  | place, (key, given) :: rest, schema, each, read => by
      rw [readRules] at read
      split at read
      · cases read
      · obtain ⟨rule, own, read⟩ := Run.except_bind_ok read
        obtain ⟨later, others, read⟩ := Run.except_bind_ok read
        cases read
        exact ⟨read_rule_documents _ given rule (each _ List.mem_cons_self) own,
          read_rules_documents place rest later
            (fun entry inside => each entry (List.mem_cons_of_mem _ inside)) others⟩

theorem read_rule_documents : ∀ (place : String) (given : Declaration) (rule : Rule),
    given.IsDocument → readRule place given = .ok rule → RuleMadeOfDocuments rule
  | place, .mapping entries, rule, document, read => by
      have each : ∀ entry ∈ entries, entry.2.IsDocument := by
        cases document with
        | mapping distinct each => exact each
      rw [readRule] at read
      obtain ⟨head, own, read⟩ := Run.except_bind_ok read
      obtain ⟨fields, inner, read⟩ := Run.except_bind_ok read
      cases read
      have validated := read_head_documents document own
      have nested := read_fields_documents place entries fields each inner
      cases fields with
      | none => exact validated
      | some rules => exact ⟨validated, nested rules rfl⟩
  | place, .null, rule, _, read => by cases read
  | place, .bool _, rule, _, read => by cases read
  | place, .integer _, rule, _, read => by cases read
  | place, .float _, rule, _, read => by cases read
  | place, .text _, rule, _, read => by cases read
  | place, .list _, rule, _, read => by cases read
  | place, .callable _, rule, _, read => by cases read

theorem read_fields_documents : ∀ (place : String) (entries : List (String × Declaration))
    (fields : Option Schema), (∀ entry ∈ entries, entry.2.IsDocument) →
      readFields place entries = .ok fields →
      ∀ inner, fields = some inner → MadeOfDocuments inner
  | place, [], fields, _, read => by
      cases read
      intro inner impossible
      cases impossible
  | place, (key, given) :: rest, fields, each, read => by
      by_cases own : key = "schema"
      · intro inner same
        subst same
        have document := each _ List.mem_cons_self
        cases given with
        | mapping entries =>
            rw [readFields, if_pos own] at read
            have inside : ∀ entry ∈ entries, entry.2.IsDocument := by
              cases document with
              | mapping distinct each => exact each
            cases readInner : readRules place entries with
            | error fault =>
                rw [readInner] at read
                cases read
            | ok schema =>
                rw [readInner] at read
                cases read
                exact read_rules_documents place entries inner inside readInner
        | _ => simp [readFields, own] at read
      · have later : readFields place rest = .ok fields := by
          cases given <;> simpa only [readFields, if_neg own] using read
        exact read_fields_documents place rest fields
          (fun entry inside => each entry (List.mem_cons_of_mem _ inside)) later

end

/-- A schema that is read from a document is made of documents. -/
theorem read_documents {given : Declaration} (document : given.IsDocument) {schema : Schema}
    (made : read given = .ok schema) : MadeOfDocuments schema := by
  cases document with
  | mapping distinct each => exact read_rules_documents "" _ schema each made
  | _ => cases made

theorem table_documents_steps :
    Nesting
      (fun fields => MadeOfDocuments fields → ∀ origin : Path,
        ∀ entry ∈ tableAt origin fields, ValidatedByDocuments entry.rule.validation)
      (fun rule => RuleMadeOfDocuments rule → ∀ path : Path,
        ∀ entry ∈ ruleTable path rule, ValidatedByDocuments entry.rule.validation) where
  nil := by
    intro _ origin entry member
    cases member
  cons := by
    intro key rule rest ofRule ofRest made origin entry member
    rw [tableAt, List.mem_append] at member
    rcases member with inside | later
    · exact ofRule made.1 _ entry inside
    · exact ofRest made.2 origin entry later
  object := by
    intro allowNull validation inner enforced ofInner made path entry member
    rw [ruleTable, List.mem_append] at member
    rcases member with inside | own
    · exact ofInner made.2 path entry inside
    · rw [List.mem_ite_nil_right] at own
      rw [List.mem_singleton.mp own.2]
      exact made.1
  array := by
    intro allowNull validation inner enforced ofInner made path entry member
    rw [ruleTable, List.mem_append] at member
    rcases member with inside | own
    · exact ofInner made.2 _ entry inside
    · rw [List.mem_ite_nil_right] at own
      rw [List.mem_singleton.mp own.2]
      exact made.1
  other := by
    intro rule other made path entry member
    rw [table_of_other path rule other, List.mem_ite_nil_right] at member
    rw [List.mem_singleton.mp member.2]
    exact made.own

theorem table_documents {schema : Schema} (made : MadeOfDocuments schema) :
    ∀ entry ∈ schema.table, ValidatedByDocuments entry.rule.validation :=
  table_documents_steps.hereditary.fields schema made []

end Schema

end DocumentRules
