import DocumentRules.Proofs.Run.Results
import DocumentRules.Rule.Graph
import Mathlib.Data.List.Perm.Subperm
import Mathlib.Data.List.Range
import Mathlib.Logic.Relation

/-!
Reading schemas that share parts. Reading fails for a cycle exactly when a mapping that
the root leads to leads back to itself, whatever the types of the rules in between. The
mappings on the way are all different, so no depth beyond their number is ever needed.
Where there is no cycle the graph unfolds to a tree, with a copy of a shared mapping in
each place that uses it, and reading the graph is reading the tree.
-/

set_option autoImplicit false

namespace DocumentRules

namespace LinkedRule

/-- Apart from where its schema leads, the rule can be read at every place. -/
def IsSound (linked : LinkedRule) : Prop :=
  match linked.target with
  | none => ∀ place, ∃ rule, Schema.readRule place linked.given = .ok rule
  | some _ => ∀ place, ∃ head, RuleHead.read place linked.given = .ok head

end LinkedRule

namespace SchemaGraph

/-- A rule of the outer mapping has the inner one as its schema. -/
def Links (graph : SchemaGraph) (outer inner : Nat) : Prop :=
  ∃ key linked, (key, linked) ∈ graph.mapping outer ∧ linked.target = some inner

def LeadsTo (graph : SchemaGraph) : Nat → Nat → Prop := Relation.ReflTransGen graph.Links

/-- At least one link leads from the mapping back to itself. -/
def OnCycle (graph : SchemaGraph) (number : Nat) : Prop :=
  Relation.TransGen graph.Links number number

/-- All rules have names and are well formed apart from their links. -/
def IsSound (graph : SchemaGraph) : Prop :=
  ∀ rules ∈ graph.mappings, ∀ key linked, (key, linked) ∈ rules → key ≠ "" ∧ linked.IsSound

/-! ## Unfolding -/

/-- The entries of a declared schema. -/
abbrev Tree := List (String × Declaration)

def withTree (given : Declaration) (tree : Tree) : Declaration :=
  match given with
  | .mapping entries => .mapping (Datum.insertEntry "schema" (.mapping tree) entries)
  | other => other

def ruleTree? (inner : Nat → Option Tree) (linked : LinkedRule) : Option Declaration :=
  match linked.target with
  | none => some linked.given
  | some number => (inner number).map (withTree linked.given)

def rulesTree? (inner : Nat → Option Tree) : List (String × LinkedRule) → Option Tree
  | [] => some []
  | (key, linked) :: rest => do
      let given ← ruleTree? inner linked
      let later ← rulesTree? inner rest
      return (key, given) :: later

/-- The tree below a mapping, if it is no deeper than the given depth. -/
def tree? (graph : SchemaGraph) : (depth : Nat) → Nat → Option Tree
  | 0, _ => none
  | depth + 1, number => rulesTree? (graph.tree? depth) (graph.mapping number)

/-- The tree below a mapping with every link replaced by a copy of what it leads to. -/
def Unfolds (graph : SchemaGraph) (number : Nat) (tree : Tree) : Prop :=
  ∃ depth, graph.tree? depth number = some tree

theorem rules_tree_mono {few more : Nat → Option Tree}
    (deeper : ∀ number tree, few number = some tree → more number = some tree)
    (rules : List (String × LinkedRule)) (tree : Tree)
    (unfolded : rulesTree? few rules = some tree) : rulesTree? more rules = some tree := by
  induction rules generalizing tree with
  | nil => exact unfolded
  | cons entry rest induction =>
      obtain ⟨key, given, target⟩ := entry
      simp only [rulesTree?, Option.bind_eq_bind, Option.bind_eq_some_iff] at unfolded ⊢
      obtain ⟨own, ruled, later, unfoldedLater, same⟩ := unfolded
      refine ⟨own, ?_, later, induction later unfoldedLater, same⟩
      cases target with
      | none => exact ruled
      | some number =>
          simp only [ruleTree?, Option.map_eq_some_iff] at ruled ⊢
          obtain ⟨inner, found, same⟩ := ruled
          exact ⟨inner, deeper number inner found, same⟩

theorem tree_succ (graph : SchemaGraph) (depth number : Nat) (tree : Tree)
    (unfolded : graph.tree? depth number = some tree) :
    graph.tree? (depth + 1) number = some tree := by
  induction depth generalizing number tree with
  | zero => cases unfolded
  | succ depth induction => exact rules_tree_mono induction (graph.mapping number) tree unfolded

theorem tree_of_le (graph : SchemaGraph) {depth larger number : Nat} {tree : Tree}
    (bound : depth ≤ larger) (unfolded : graph.tree? depth number = some tree) :
    graph.tree? larger number = some tree := by
  induction larger, bound using Nat.le_induction with
  | base => exact unfolded
  | succ larger _ induction => exact graph.tree_succ larger number tree induction

/-- A mapping unfolds to one tree at most. -/
theorem unfolds_unique (graph : SchemaGraph) {number : Nat} {left right : Tree}
    (unfoldsLeft : graph.Unfolds number left) (unfoldsRight : graph.Unfolds number right) :
    left = right := by
  obtain ⟨first, unfoldedLeft⟩ := unfoldsLeft
  obtain ⟨second, unfoldedRight⟩ := unfoldsRight
  have left := graph.tree_of_le (Nat.le_max_left first second) unfoldedLeft
  have right := graph.tree_of_le (Nat.le_max_right first second) unfoldedRight
  rw [left] at right
  exact Option.some.inj right

/-! ## Reading a tree -/

theorem get_with_tree (entries : List (String × Declaration)) (tree : Tree) (key : String)
    (other : "schema" ≠ key) :
    (Datum.mapping (Datum.insertEntry "schema" (.mapping tree) entries)).get? key =
      (Datum.mapping entries).get? key :=
  Datum.entry_insert_other "schema" key other (.mapping tree) entries

/-- The schema of a rule does not matter to the other parts of the rule. -/
theorem head_with_tree {place : String} {entries : List (String × Declaration)} {head : RuleHead}
    (tree : Tree) (read : RuleHead.read place (.mapping entries) = .ok head) :
    RuleHead.read place (.mapping (Datum.insertEntry "schema" (.mapping tree) entries)) =
      .ok { head with hasFields := true } := by
  have same := get_with_tree entries tree
  have inner : (Datum.mapping (Datum.insertEntry "schema" (.mapping tree) entries)).get? "schema" =
      some (.mapping tree) := Datum.entry_insert_same "schema" (.mapping tree) entries
  obtain ⟨tag, readTag, read⟩ := Run.except_bind_ok read
  obtain ⟨validation, readValidation, read⟩ := Run.except_bind_ok read
  obtain ⟨hasFields, _, read⟩ := Run.except_bind_ok read
  cases read
  simp only [Datum.getOrNull] at readTag readValidation
  simp only [RuleHead.read, Datum.getOrNull, same "type" (by decide), same "validate" (by decide),
    same "allowNull" (by decide), inner, readTag, readValidation, List.any_cons, List.any_nil]
  rfl

theorem read_fields_with_tree (place : String) (entries : List (String × Declaration))
    (tree : Tree) :
    Schema.readFields place (Datum.insertEntry "schema" (.mapping tree) entries) =
      (Schema.readRules place tree).map some := by
  induction entries with
  | nil => simp [Datum.insertEntry, Schema.readFields]
  | cons entry rest induction =>
      obtain ⟨key, given⟩ := entry
      by_cases same : key = "schema"
      · simp [Datum.insertEntry, Schema.readFields, same]
      · simp only [Datum.insertEntry, if_neg same]
        cases given <;> simpa only [Schema.readFields, if_neg same] using induction

theorem read_rule_with_tree {place : String} {given : Declaration} {head : RuleHead}
    {tree : Tree} {fields : Schema} (read : RuleHead.read place given = .ok head)
    (readTree : Schema.readRules place tree = .ok fields) :
    Schema.readRule place (withTree given tree) = .ok (head.toRule (some fields)) := by
  cases given with
  | mapping entries =>
      simp only [withTree, Schema.readRule, head_with_tree tree read, read_fields_with_tree,
        readTree]
      rfl
  | _ => cases read

/-! ## Reading the rules of one mapping -/

/-- A rule is read by itself, or together with the mapping it leads to. -/
def readOne (read : String → Nat → Except Fault Schema) (place : String) (linked : LinkedRule) :
    Except Fault Rule :=
  match linked.target with
  | none => Schema.readRule place linked.given
  | some number => readLinked read place linked.given number

section Rules

variable {read : String → Nat → Except Fault Schema} {place key : String} {linked : LinkedRule}
  {rest : List (String × LinkedRule)}

theorem read_rules_cons (named : key ≠ "") :
    readRules read place ((key, linked) :: rest) =
      (readOne read (Schema.placeOf place key) linked).bind fun rule =>
        (readRules read place rest).bind fun later => .ok ((key, rule) :: later) := by
  obtain ⟨given, target⟩ := linked
  cases target <;> simp only [readRules, if_neg named, readOne] <;> rfl

theorem read_rules_ok {schema : Schema}
    (ran : readRules read place ((key, linked) :: rest) = .ok schema) :
    ∃ rule later, readOne read (Schema.placeOf place key) linked = .ok rule ∧
      readRules read place rest = .ok later ∧ schema = (key, rule) :: later := by
  by_cases nameless : key = ""
  · simp [readRules, nameless] at ran
  · rw [read_rules_cons nameless] at ran
    obtain ⟨rule, own, ran⟩ := Run.except_bind_ok ran
    obtain ⟨later, others, ran⟩ := Run.except_bind_ok ran
    cases ran
    exact ⟨rule, later, own, others, rfl⟩

theorem read_linked_ok {given : Declaration} {number : Nat} {rule : Rule}
    (ran : readLinked read place given number = .ok rule) :
    ∃ head fields, RuleHead.read place given = .ok head ∧ read place number = .ok fields ∧
      rule = head.toRule (some fields) := by
  obtain ⟨head, readHead, ran⟩ := Run.except_bind_ok ran
  obtain ⟨fields, inside, ran⟩ := Run.except_bind_ok ran
  cases ran
  exact ⟨head, fields, readHead, inside, rfl⟩

theorem target_read_of_ok {rules : List (String × LinkedRule)} {schema : Schema}
    (ran : readRules read place rules = .ok schema) (member : (key, linked) ∈ rules)
    {number : Nat} (target : linked.target = some number) :
    ∃ inner fields, read inner number = .ok fields := by
  induction rules generalizing schema with
  | nil => cases member
  | cons entry rest induction =>
      obtain ⟨rule, later, own, others, _⟩ := read_rules_ok ran
      rcases List.mem_cons.mp member with same | inside
      · subst same
        simp only [readOne, target] at own
        obtain ⟨_, fields, _, inner, _⟩ := read_linked_ok own
        exact ⟨_, fields, inner⟩
      · exact induction others inside

/-- Only the readings of the mappings that the rules lead to matter. -/
theorem read_rules_congr {other : String → Nat → Except Fault Schema}
    (rules : List (String × LinkedRule))
    (same : ∀ key linked number, (key, linked) ∈ rules → linked.target = some number →
      ∀ inner, read inner number = other inner number) :
    readRules read place rules = readRules other place rules := by
  induction rules with
  | nil => rfl
  | cons entry rest induction =>
      obtain ⟨key, linked⟩ := entry
      by_cases nameless : key = ""
      · simp [readRules, nameless]
      · have others := induction fun key linked number member =>
          same key linked number (List.mem_cons_of_mem _ member)
        have own : ∀ inner, readOne read inner linked = readOne other inner linked := by
          intro inner
          cases target : linked.target with
          | none => simp only [readOne, target]
          | some number =>
              simp only [readOne, target, readLinked,
                same key linked number List.mem_cons_self target]
        rw [read_rules_cons nameless, read_rules_cons nameless, own, others]

/-- Well-formed rules are read, or one of the mappings they lead to is not, and its fault is the
fault of all. -/
theorem read_rules_of_sound (rules : List (String × LinkedRule))
    (sound : ∀ key linked, (key, linked) ∈ rules → key ≠ "" ∧ linked.IsSound) :
    (∃ schema, readRules read place rules = .ok schema) ∨
      ∃ key linked number inner fault, (key, linked) ∈ rules ∧ linked.target = some number ∧
        read inner number = .error fault ∧ readRules read place rules = .error fault := by
  induction rules with
  | nil => exact Or.inl ⟨[], rfl⟩
  | cons entry rest induction =>
      obtain ⟨key, linked⟩ := entry
      obtain ⟨named, soundOwn⟩ := sound key linked List.mem_cons_self
      have others := induction fun key linked member =>
        sound key linked (List.mem_cons_of_mem _ member)
      have own : (∃ rule, readOne read (Schema.placeOf place key) linked = .ok rule) ∨
          ∃ number fault, linked.target = some number ∧
            read (Schema.placeOf place key) number = .error fault ∧
            readOne read (Schema.placeOf place key) linked = .error fault := by
        cases target : linked.target with
        | none =>
            simp only [LinkedRule.IsSound, target] at soundOwn
            simp only [readOne, target]
            exact Or.inl (soundOwn _)
        | some number =>
            simp only [LinkedRule.IsSound, target] at soundOwn
            obtain ⟨head, readHead⟩ := soundOwn (Schema.placeOf place key)
            simp only [readOne, target, readLinked, readHead]
            cases inside : read (Schema.placeOf place key) number with
            | ok fields => exact Or.inl ⟨_, rfl⟩
            | error fault => exact Or.inr ⟨number, fault, rfl, inside, rfl⟩
      rw [read_rules_cons named]
      rcases own with ⟨rule, readOwn⟩ | ⟨number, fault, target, inside, failed⟩
      · rw [readOwn]
        rcases others with ⟨later, readLater⟩ | ⟨name, other, number, inner, fault, member, rest⟩
        · rw [readLater]
          exact Or.inl ⟨_, rfl⟩
        · rw [rest.2.2]
          exact Or.inr ⟨name, other, number, inner, fault, List.mem_cons_of_mem _ member, rest.1,
            rest.2.1, rfl⟩
      · rw [failed]
        exact Or.inr ⟨key, linked, number, _, fault, List.mem_cons_self, target, inside, rfl⟩

end Rules

/-! ## The way to a mapping -/

/-- The mappings entered on the way to a mapping: all different, and each of them leads to it. -/
structure OnWay (graph : SchemaGraph) (entered : List Nat) (number : Nat) : Prop where
  distinct : entered.Nodup
  leads : ∀ outer ∈ entered, Relation.TransGen graph.Links outer number

/-- Only mappings of the graph hold rules. -/
theorem mapping_of_mem {graph : SchemaGraph} {number : Nat} {entry : String × LinkedRule}
    (member : entry ∈ graph.mapping number) :
    number < graph.mappings.length ∧ graph.mapping number ∈ graph.mappings := by
  by_cases bound : number < graph.mappings.length
  · have found : graph.mapping number = graph.mappings[number] := by simp [mapping, bound]
    exact ⟨bound, found ▸ List.getElem_mem bound⟩
  · have absent : graph.mappings[number]? = none := List.getElem?_eq_none (by omega)
    simp [mapping, absent] at member

namespace OnWay

variable {graph : SchemaGraph} {entered : List Nat} {number : Nat}

theorem root (graph : SchemaGraph) (number : Nat) : graph.OnWay [] number :=
  ⟨List.nodup_nil, by simp⟩

theorem step (way : graph.OnWay entered number) (fresh : number ∉ entered) {inner : Nat}
    (links : graph.Links number inner) : graph.OnWay (number :: entered) inner := by
  refine ⟨List.nodup_cons.mpr ⟨fresh, way.distinct⟩, ?_⟩
  intro outer member
  rcases List.mem_cons.mp member with same | inside
  · exact same ▸ Relation.TransGen.single links
  · exact (way.leads outer inside).tail links

/-- No way is longer than there are mappings. -/
theorem length_le (way : graph.OnWay entered number) :
    entered.length ≤ graph.mappings.length := by
  have inside : entered ⊆ List.range graph.mappings.length := by
    intro outer member
    obtain ⟨next, links, _⟩ := Relation.TransGen.head'_iff.mp (way.leads outer member)
    obtain ⟨key, linked, listed, _⟩ := links
    exact List.mem_range.mpr (mapping_of_mem listed).1
  have short := (List.Nodup.subperm way.distinct inside).length_le
  simpa using short

end OnWay

/-! ## Reading a mapping -/

section Mapping

variable {graph : SchemaGraph} {depth : Nat} {entered : List Nat} {place : String} {number : Nat}

theorem read_mapping_again (again : number ∈ entered) :
    graph.readMapping (depth + 1) entered place number = .error (.schema (.cyclic place)) := by
  simp [readMapping, again]

theorem read_mapping_fresh (fresh : number ∉ entered) :
    graph.readMapping (depth + 1) entered place number =
      readRules (graph.readMapping depth (number :: entered)) place (graph.mapping number) := by
  simp [readMapping, fresh]

theorem read_mapping_ok {schema : Schema}
    (ran : graph.readMapping (depth + 1) entered place number = .ok schema) :
    readRules (graph.readMapping depth (number :: entered)) place (graph.mapping number) =
      .ok schema := by
  by_cases again : number ∈ entered
  · rw [read_mapping_again again] at ran
    cases ran
  · rwa [read_mapping_fresh again] at ran

end Mapping

/-- More depth than there are mappings changes nothing. -/
theorem read_mapping_deeper (graph : SchemaGraph) (depth deeper : Nat) (entered : List Nat)
    (place : String) (number : Nat) (way : graph.OnWay entered number)
    (room : graph.mappings.length < depth + entered.length) (more : depth ≤ deeper) :
    graph.readMapping deeper entered place number =
      graph.readMapping depth entered place number := by
  have short := way.length_le
  induction depth generalizing deeper entered place number with
  | zero => omega
  | succ depth induction =>
      obtain ⟨deeper, rfl⟩ := Nat.exists_eq_add_of_lt more
      by_cases again : number ∈ entered
      · rw [read_mapping_again again, read_mapping_again again]
      · rw [read_mapping_fresh again, read_mapping_fresh again]
        apply read_rules_congr
        intro key linked inner member target place
        have next := way.step again ⟨key, linked, member, target⟩
        apply induction _ _ place inner next _ _ next.length_le
        · simp only [List.length_cons]
          omega
        · omega

/-- A well-formed graph is read, or the refusal is that of a cycle, and then there is one. -/
theorem read_mapping_of_sound (graph : SchemaGraph) (sound : graph.IsSound) (depth : Nat)
    (entered : List Nat) (place : String) (number : Nat) (way : graph.OnWay entered number)
    (room : graph.mappings.length < depth + entered.length) :
    (∃ schema, graph.readMapping depth entered place number = .ok schema) ∨
      (∃ refused, graph.readMapping depth entered place number =
        .error (.schema (.cyclic refused))) ∧
        ∃ again, graph.LeadsTo number again ∧ graph.OnCycle again := by
  have short := way.length_le
  induction depth generalizing entered place number with
  | zero => omega
  | succ depth induction =>
      by_cases again : number ∈ entered
      · rw [read_mapping_again again]
        exact Or.inr ⟨⟨place, rfl⟩, number, Relation.ReflTransGen.refl, way.leads number again⟩
      · rw [read_mapping_fresh again]
        have soundRules : ∀ key linked, (key, linked) ∈ graph.mapping number →
            key ≠ "" ∧ linked.IsSound := by
          intro key linked member
          exact sound _ (mapping_of_mem member).2 key linked member
        rcases read_rules_of_sound (graph.mapping number) soundRules with done | failed
        · exact Or.inl done
        · obtain ⟨key, linked, inner, within, fault, member, target, refused, all⟩ := failed
          have links : graph.Links number inner := ⟨key, linked, member, target⟩
          have next := way.step again links
          have inside := induction (number :: entered) within inner next
            (by simp only [List.length_cons]; omega) next.length_le
          rw [refused] at inside
          rcases inside with ⟨schema, impossible⟩ | ⟨⟨place, same⟩, repeated, leads, cycle⟩
          · cases impossible
          · rw [all, same]
            exact Or.inr ⟨⟨place, rfl⟩, repeated, leads.head links, cycle⟩

/-- From a mapping that has been read no way of links is endless. -/
theorem acc_of_read (graph : SchemaGraph) (depth : Nat) (entered : List Nat) (place : String)
    (number : Nat) (schema : Schema)
    (ran : graph.readMapping depth entered place number = .ok schema) :
    Acc (fun inner outer => graph.Links outer inner) number := by
  induction depth generalizing entered place number schema with
  | zero => cases ran
  | succ depth induction =>
      constructor
      intro inner links
      obtain ⟨key, linked, member, target⟩ := links
      obtain ⟨within, fields, inside⟩ := target_read_of_ok (read_mapping_ok ran) member target
      exact induction (number :: entered) within inner fields inside

theorem not_on_cycle_of_acc {graph : SchemaGraph} {number again : Nat}
    (leads : graph.LeadsTo number again)
    (finite : Acc (fun inner outer => graph.Links outer inner) number) :
    ¬graph.OnCycle again := by
  have finiteAgain : Acc (fun inner outer => graph.Links outer inner) again := by
    induction leads with
    | refl => exact finite
    | tail _ links induction => exact induction.inv links
  have finiteWays := acc_transGen_iff.mpr finiteAgain
  clear finite finiteAgain leads
  intro cycle
  have turned := Relation.transGen_swap.mp cycle
  induction finiteWays with
  | intro again _ induction => exact induction again turned cycle turned

theorem rules_tree_of_read {read : String → Nat → Except Fault Schema}
    {inner : Nat → Option Tree}
    (trees : ∀ place number fields, read place number = .ok fields →
      ∃ tree, inner number = some tree ∧ Schema.readRules place tree = .ok fields)
    (place : String) (rules : List (String × LinkedRule)) (schema : Schema)
    (ran : readRules read place rules = .ok schema) :
    ∃ tree, rulesTree? inner rules = some tree ∧ Schema.readRules place tree = .ok schema := by
  induction rules generalizing schema with
  | nil => exact ⟨[], rfl, ran⟩
  | cons entry rest induction =>
      obtain ⟨key, linked⟩ := entry
      have named : key ≠ "" := by
        rintro rfl
        simp [readRules] at ran
      obtain ⟨rule, later, own, others, rfl⟩ := read_rules_ok ran
      obtain ⟨restTree, unfoldedRest, readRest⟩ := induction later others
      have ruled : ∃ given, ruleTree? inner linked = some given ∧
          Schema.readRule (Schema.placeOf place key) given = .ok rule := by
        cases target : linked.target with
        | none =>
            simp only [readOne, target] at own
            exact ⟨linked.given, by simp [ruleTree?, target], own⟩
        | some number =>
            simp only [readOne, target] at own
            obtain ⟨head, fields, readHead, inside, rfl⟩ := read_linked_ok own
            obtain ⟨tree, unfolded, readTree⟩ := trees _ number fields inside
            exact ⟨withTree linked.given tree, by simp [ruleTree?, target, unfolded],
              read_rule_with_tree readHead readTree⟩
      obtain ⟨given, unfolded, readOwn⟩ := ruled
      refine ⟨(key, given) :: restTree, by simp [rulesTree?, unfolded, unfoldedRest], ?_⟩
      simp only [Schema.readRules, if_neg named, readOwn, readRest]
      rfl

/-- What has been read of a mapping is what is read of the tree it unfolds to. -/
theorem tree_of_read (graph : SchemaGraph) (depth : Nat) (entered : List Nat) (place : String)
    (number : Nat) (schema : Schema)
    (ran : graph.readMapping depth entered place number = .ok schema) :
    ∃ tree, graph.tree? depth number = some tree ∧ Schema.readRules place tree = .ok schema := by
  induction depth generalizing entered place number schema with
  | zero => cases ran
  | succ depth induction =>
      exact rules_tree_of_read (induction (number :: entered)) place (graph.mapping number) schema
        (read_mapping_ok ran)

/-- Reading a well-formed graph comes to an end at a depth that the number of its mappings bounds.
It is refused for a cycle exactly when the root leads to one, and for nothing else; otherwise the
graph unfolds to one tree, and that tree is read to the same schema. -/
theorem graph_read_unless_cyclic (graph : SchemaGraph) (sound : graph.IsSound) :
    (∀ depth, graph.mappings.length < depth → graph.readMapping depth [] "" 0 = graph.read) ∧
      ((∃ place, graph.read = .error (.schema (.cyclic place))) ↔
        ∃ again, graph.LeadsTo 0 again ∧ graph.OnCycle again) ∧
      ((¬∃ place, graph.read = .error (.schema (.cyclic place))) →
        ∃ tree schema, graph.Unfolds 0 tree ∧ (∀ other, graph.Unfolds 0 other → other = tree) ∧
          Schema.read (.mapping tree) = .ok schema ∧ graph.read = .ok schema) := by
  have way := OnWay.root graph 0
  have room : graph.mappings.length < graph.mappings.length + 1 + ([] : List Nat).length := by simp
  have outcome := graph.read_mapping_of_sound sound _ [] "" 0 way room
  refine ⟨?_, ⟨?_, ?_⟩, ?_⟩
  · intro depth more
    exact graph.read_mapping_deeper _ depth [] "" 0 way room more
  · rintro ⟨place, refused⟩
    rcases outcome with ⟨schema, done⟩ | ⟨_, cycle⟩
    · rw [read, done] at refused
      cases refused
    · exact cycle
  · rintro ⟨again, leads, cycle⟩
    rcases outcome with ⟨schema, done⟩ | ⟨refused, _⟩
    · exact absurd cycle (not_on_cycle_of_acc leads (graph.acc_of_read _ [] "" 0 schema done))
    · exact refused
  · intro accepted
    rcases outcome with ⟨schema, done⟩ | ⟨refused, _⟩
    · obtain ⟨tree, unfolded, readTree⟩ := graph.tree_of_read _ [] "" 0 schema done
      have unfolds : graph.Unfolds 0 tree := ⟨_, unfolded⟩
      exact ⟨tree, schema, unfolds, fun other others => graph.unfolds_unique others unfolds,
        readTree, done⟩
    · exact absurd refused accepted

/-- Two rules that share a schema. -/
def addresses : SchemaGraph where
  mappings :=
    [[("home", ⟨.mapping [("type", .text "object")], some 1⟩),
      ("work", ⟨.mapping [("allowNull", .bool true)], some 1⟩)],
     [("street", ⟨.mapping [("type", .text "string")], none⟩)]]

/-- A cycle that the root leads to, through a rule that is no container. -/
def knot : SchemaGraph where
  mappings :=
    [[("start", ⟨.mapping [], some 1⟩)],
     [("there", ⟨.mapping [("type", .text "string")], some 2⟩)],
     [("back", ⟨.mapping [("validate", .mapping [])], some 1⟩)]]

theorem addresses_sound : addresses.IsSound := by
  simp only [IsSound, addresses, List.forall_mem_cons]
  refine ⟨?_, ?_, by simp⟩
  · intro key linked member
    simp only [List.mem_cons, List.not_mem_nil, or_false, Prod.mk.injEq] at member
    rcases member with ⟨rfl, rfl⟩ | ⟨rfl, rfl⟩
    · exact ⟨by decide, fun place => ⟨_, rfl⟩⟩
    · exact ⟨by decide, fun place => ⟨_, rfl⟩⟩
  · intro key linked member
    obtain ⟨rfl, rfl⟩ := Prod.mk.inj (List.mem_singleton.mp member)
    exact ⟨by decide, fun place => ⟨_, rfl⟩⟩

theorem knot_sound : knot.IsSound := by
  simp only [IsSound, knot, List.forall_mem_cons]
  refine ⟨?_, ?_, ?_, by simp⟩
  all_goals
    intro key linked member
    obtain ⟨rfl, rfl⟩ := Prod.mk.inj (List.mem_singleton.mp member)
    exact ⟨by decide, fun place => ⟨_, rfl⟩⟩

theorem knot_cycle : knot.LeadsTo 0 1 ∧ knot.OnCycle 1 := by
  have start : knot.Links 0 1 := ⟨"start", _, List.mem_singleton.mpr rfl, rfl⟩
  have there : knot.Links 1 2 := ⟨"there", _, List.mem_singleton.mpr rfl, rfl⟩
  have back : knot.Links 2 1 := ⟨"back", _, List.mem_singleton.mpr rfl, rfl⟩
  exact ⟨Relation.ReflTransGen.single start, (Relation.TransGen.single there).tail back⟩

/-- A shared schema is copied, a knotted one refused. -/
theorem shared_read_knot_refused :
    (addresses.IsSound ∧ ∃ schema,
      Schema.read (.mapping
        [("home", .mapping [("type", .text "object"),
          ("schema", .mapping [("street", .mapping [("type", .text "string")])])]),
         ("work", .mapping [("allowNull", .bool true),
          ("schema", .mapping [("street", .mapping [("type", .text "string")])])])]) = .ok schema ∧
        addresses.read = .ok schema) ∧
      knot.IsSound ∧ ∃ place, knot.read = .error (.schema (.cyclic place)) := by
  constructor
  · refine ⟨addresses_sound, ?_⟩
    have accepted : ¬∃ place, addresses.read = .error (.schema (.cyclic place)) := by
      rintro ⟨place, refused⟩
      cases refused
    obtain ⟨tree, schema, _, only, readTree, readGraph⟩ :=
      (graph_read_unless_cyclic addresses addresses_sound).2.2 accepted
    rw [← only _ ⟨2, rfl⟩] at readTree
    exact ⟨schema, readTree, readGraph⟩
  · exact ⟨knot_sound, (graph_read_unless_cyclic knot knot_sound).2.1.mpr ⟨1, knot_cycle⟩⟩

end SchemaGraph

end DocumentRules
