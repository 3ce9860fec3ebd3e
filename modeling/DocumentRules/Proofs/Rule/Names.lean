import DocumentRules.Check
import DocumentRules.Proofs.Path.Labels
import DocumentRules.Proofs.Rule.Induction
import DocumentRules.Proofs.Run.Results

/-!
In a schema that has been read no field is without a name, however the schema was
handed over. So every path of its table is spelled by keys and is not the empty name
alone, and the places such a path leads to can be told apart by their labels.
-/

set_option autoImplicit false

namespace DocumentRules

open Text

namespace Schema

mutual

/-- No field, at any depth, has the empty key. -/
def HasNames : List (String × Rule) → Prop
  | [] => True
  | (key, rule) :: rest => key ≠ "" ∧ RuleHasNames rule ∧ HasNames rest

def RuleHasNames : Rule → Prop
  | ⟨_, _, _, none, _⟩ => True
  | ⟨_, _, _, some inner, _⟩ => HasNames inner

end

theorem to_rule_names (head : RuleHead) (fields : Option Schema)
    (named : ∀ inner, fields = some inner → HasNames inner) :
    RuleHasNames (head.toRule fields) := by
  cases fields with
  | none => trivial
  | some inner => exact named inner rfl

/-- The two ways of going on from a field: its key is empty and that is the fault, or its rule and
the later fields are read. -/
theorem named_of_step {key place : String} {readOwn : Except Fault Rule}
    {readLater : Except Fault Schema} {schema : Schema}
    (read : (if key = "" then .error (.schema (.emptyKey place))
      else do
        let rule ← readOwn
        let later ← readLater
        return (key, rule) :: later) = Except.ok schema)
    (own : ∀ rule, readOwn = .ok rule → RuleHasNames rule)
    (later : ∀ rest, readLater = .ok rest → HasNames rest) : HasNames schema := by
  by_cases empty : key = ""
  · rw [if_pos empty] at read
    cases read
  · rw [if_neg empty] at read
    obtain ⟨rule, readRule, read⟩ := Run.except_bind_ok read
    obtain ⟨rest, readRest, read⟩ := Run.except_bind_ok read
    cases read
    exact ⟨empty, own rule readRule, later rest readRest⟩

mutual

theorem read_rules_names : ∀ (place : String) (entries : List (String × Declaration))
    (schema : Schema), readRules place entries = .ok schema → HasNames schema
  | place, [], schema, read => by
      cases read
      trivial
  | place, (key, given) :: rest, schema, read => by
      rw [readRules] at read
      exact named_of_step read
        (fun rule readOwn => read_rule_names (placeOf place key) given rule readOwn)
        (fun later readLater => read_rules_names place rest later readLater)

theorem read_rule_names : ∀ (place : String) (given : Declaration) (rule : Rule),
    readRule place given = .ok rule → RuleHasNames rule
  | place, .mapping entries, rule, read => by
      rw [readRule] at read
      obtain ⟨head, _, read⟩ := Run.except_bind_ok read
      obtain ⟨fields, readInner, read⟩ := Run.except_bind_ok read
      cases read
      exact to_rule_names head fields (read_fields_names place entries fields readInner)
  | place, .null, rule, read => by cases read
  | place, .bool _, rule, read => by cases read
  | place, .integer _, rule, read => by cases read
  | place, .float _, rule, read => by cases read
  | place, .text _, rule, read => by cases read
  | place, .list _, rule, read => by cases read
  | place, .callable _, rule, read => by cases read

theorem read_fields_names : ∀ (place : String) (entries : List (String × Declaration))
    (fields : Option Schema), readFields place entries = .ok fields →
      ∀ inner, fields = some inner → HasNames inner
  | place, [], fields, read => by
      cases read
      intro inner impossible
      cases impossible
  | place, (key, given) :: rest, fields, read => by
      by_cases own : key = "schema"
      · intro inner same
        subst same
        cases given with
        | mapping entries =>
            rw [readFields, if_pos own] at read
            cases readInner : readRules place entries with
            | error fault =>
                rw [readInner] at read
                cases read
            | ok schema =>
                rw [readInner] at read
                cases read
                exact read_rules_names place entries inner readInner
        | _ => simp [readFields, own] at read
      · have later : readFields place rest = .ok fields := by
          cases given <;> simpa only [readFields, if_neg own] using read
        exact read_fields_names place rest fields later

end

mutual

theorem reread_rules_names : ∀ (place : String) (fields : List (String × Rule)) (schema : Schema),
    rereadRules place fields = .ok schema → HasNames schema
  | place, [], schema, read => by
      cases read
      trivial
  | place, (key, rule) :: rest, schema, read => by
      rw [rereadRules] at read
      exact named_of_step read
        (fun own readOwn => reread_rule_names (placeOf place key) rule own readOwn)
        (fun later readLater => reread_rules_names place rest later readLater)

theorem reread_rule_names : ∀ (place : String) (rule result : Rule),
    rereadRule place rule = .ok result → RuleHasNames result
  | place, ⟨tag, allowNull, validation, none, enforced⟩, result, read => by
      cases read
      trivial
  | place, ⟨tag, allowNull, validation, some fields, enforced⟩, result, read => by
      rw [rereadRule] at read
      obtain ⟨inner, readInner, read⟩ := Run.except_bind_ok read
      cases read
      exact reread_rules_names place fields inner readInner

end

end Schema

namespace SchemaGraph

theorem read_rules_names (reader : String → Nat → Except Fault Schema)
    (inside : ∀ place number schema, reader place number = .ok schema → Schema.HasNames schema)
    (place : String) (rules : List (String × LinkedRule)) (schema : Schema)
    (read : readRules reader place rules = .ok schema) : Schema.HasNames schema := by
  induction rules generalizing schema with
  | nil =>
      cases read
      trivial
  | cons entry rest induction =>
      obtain ⟨key, given, target⟩ := entry
      cases target with
      | none =>
          exact Schema.named_of_step read (Schema.read_rule_names _ given) induction
      | some number =>
          refine Schema.named_of_step read ?_ induction
          intro rule readOwn
          obtain ⟨head, _, readOwn⟩ := Run.except_bind_ok readOwn
          obtain ⟨fields, readInner, readOwn⟩ := Run.except_bind_ok readOwn
          cases readOwn
          apply Schema.to_rule_names head (some fields)
          intro inner same
          cases same
          exact inside _ number _ readInner

theorem read_mapping_names (graph : SchemaGraph) (depth : Nat) (entered : List Nat)
    (place : String) (number : Nat) (schema : Schema)
    (read : graph.readMapping depth entered place number = .ok schema) :
    Schema.HasNames schema := by
  induction depth generalizing entered place number schema with
  | zero => cases read
  | succ depth induction =>
      rw [readMapping] at read
      by_cases inside : entered.contains number = true
      · rw [if_pos inside] at read
        cases read
      · rw [if_neg inside] at read
        exact read_rules_names _ (fun place other inner => induction _ place other inner) place _
          schema read

end SchemaGraph

/-- Whatever has been read has names for all its fields. -/
theorem SchemaSource.names_of_read {source : SchemaSource} {schema : Schema}
    (read : source.read = .ok schema) : Schema.HasNames schema := by
  cases source with
  | declared given =>
      cases given with
      | mapping entries => exact Schema.read_rules_names "" entries schema read
      | _ => cases read
  | linked graph => exact SchemaGraph.read_mapping_names graph _ [] "" 0 schema read
  | ready rules => exact Schema.reread_rules_names "" rules schema read

namespace Path

/-- A path that keys spell and that is not the empty name alone. -/
structure IsSpelled (path : Path) : Prop where
  segments : ∀ segment ∈ path, segment.IsSpelled
  named : path ≠ [.field ""]

theorem nil_spelled : IsSpelled [] := ⟨by simp, by simp⟩

theorem extend_spelled {origin : Path} (spelled : origin.IsSpelled) {key : String}
    (named : key ≠ "") : (origin.extend key).IsSpelled := by
  rw [extend]
  split
  · exact spelled
  · constructor
    · intro segment member
      rcases List.mem_append.mp member with before | after
      · exact spelled.segments segment before
      · exact of_key_spelled key segment after
    · intro nameless
      rcases List.append_eq_singleton_iff.mp nameless with ⟨_, own⟩ | ⟨_, none⟩
      · exact named (of_key_empty_name own)
      · exact of_key_nonempty key none

theorem every_spelled {origin : Path} (spelled : origin.IsSpelled) :
    IsSpelled (origin ++ [.every]) := by
  constructor
  · intro segment member
    rcases List.mem_append.mp member with before | own
    · exact spelled.segments segment before
    · rw [List.mem_singleton.mp own]
      trivial
  · intro nameless
    rcases List.append_eq_singleton_iff.mp nameless with ⟨_, own⟩ | ⟨_, none⟩
    · cases own
    · cases none

end Path

namespace Schema

theorem table_spelled_steps :
    Nesting
      (fun fields => HasNames fields → ∀ origin : Path, origin.IsSpelled →
        ∀ entry ∈ tableAt origin fields, entry.path.IsSpelled)
      (fun rule => RuleHasNames rule → ∀ path : Path, path.IsSpelled →
        ∀ entry ∈ ruleTable path rule, entry.path.IsSpelled) where
  nil := by
    intro _ origin _ entry member
    cases member
  cons := by
    intro key rule rest ofRule ofRest named origin spelled entry member
    obtain ⟨named, ruleNamed, restNamed⟩ := named
    rw [tableAt, List.mem_append] at member
    rcases member with inside | later
    · exact ofRule ruleNamed _ (Path.extend_spelled spelled named) entry inside
    · exact ofRest restNamed origin spelled entry later
  object := by
    intro allowNull validation inner enforced ofInner named path spelled entry member
    rw [ruleTable, List.mem_append] at member
    rcases member with inside | own
    · exact ofInner named path spelled entry inside
    · rw [List.mem_ite_nil_right] at own
      rw [List.mem_singleton.mp own.2]
      exact spelled
  array := by
    intro allowNull validation inner enforced ofInner named path spelled entry member
    rw [ruleTable, List.mem_append] at member
    rcases member with inside | own
    · exact ofInner named _ (Path.every_spelled spelled) entry inside
    · rw [List.mem_ite_nil_right] at own
      rw [List.mem_singleton.mp own.2]
      exact spelled
  other := by
    intro rule other _ path spelled entry member
    rw [table_of_other path rule other, List.mem_ite_nil_right] at member
    rw [List.mem_singleton.mp member.2]
    exact spelled

theorem table_spelled {source : SchemaSource} {schema : Schema} (read : source.read = .ok schema) :
    ∀ entry ∈ schema.table, entry.path.IsSpelled :=
  table_spelled_steps.hereditary.fields schema (SchemaSource.names_of_read read) []
    Path.nil_spelled

end Schema

theorem Segment.reached_of_fits {target : Value} {segment step : Segment}
    (spelled : segment.IsSpelled) (fits : segment.Fits target step) : step.IsReached := by
  cases segment with
  | every =>
      obtain ⟨_, _, position, _, rfl⟩ := fits
      exact Int.natCast_nonneg position
  | field name =>
      rw [show step = .field name from fits]
      exact spelled
  | index position => exact False.elim spelled
  | flag truth => exact False.elim spelled

/-- The places that a spelled path leads to are reached by names and positions. -/
theorem Path.IsSpelled.reached {path : Path} (spelled : path.IsSpelled) {value : Value}
    {concrete : Path} (fitting : path.IsInstance value concrete) : concrete.IsReached := by
  constructor
  · intro segment member
    obtain ⟨before, own, inPath, fits⟩ := fitting.fits_of_mem member
    exact Segment.reached_of_fits (spelled.segments own inPath) fits
  · intro nameless
    subst nameless
    obtain ⟨segment, rfl⟩ := List.length_eq_one_iff.mp fitting.length.symm
    have fits := fitting.fits 0 segment (.field "") rfl rfl
    cases segment with
    | every =>
        obtain ⟨_, _, _, _, impossible⟩ := fits
        cases impossible
    | _ => exact spelled.named (congrArg (fun each => [each]) fits.symm)

end DocumentRules
