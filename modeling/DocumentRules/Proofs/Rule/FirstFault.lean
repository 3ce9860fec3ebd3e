import DocumentRules.Proofs.Path.Keys
import DocumentRules.Proofs.Rule.Sites

/-!
The first fault of a declared schema. The fields of a schema and of all schemas inside it
stand in one row: fields in the order of their declaration, each before the fields inside its
own rule, whatever the type of that rule. Reading goes along this row. It succeeds when every
field has a name and a well-formed rule. Otherwise it ends at the first field that has not,
and the message opens with the keys that lead there.
-/

set_option autoImplicit false

namespace DocumentRules

open Text

/-! ## What a message opens with -/

/-- A text that opens with a place and a colon. -/
def TellsOf (place text : String) : Prop := ∃ rest, text = place ++ ":" ++ rest

theorem TellsOf.append {place text : String} (tells : TellsOf place text) (more : String) :
    TellsOf place (text ++ more) := by
  obtain ⟨rest, rfl⟩ := tells
  exact ⟨rest ++ more, String.append_assoc⟩

theorem tells_of_opening (place : String) {opening : String}
    (colon : opening.toList.head? = some ':') : TellsOf place (place ++ opening) := by
  obtain ⟨words, letters⟩ := List.head?_eq_some_iff.mp colon
  have split : opening = ":" ++ String.ofList words := by
    calc
      opening = String.ofList opening.toList := String.ofList_toList.symm
      _ = String.ofList ([':'] ++ words) := by rw [letters, List.singleton_append]
      _ = ":" ++ String.ofList words := String.ofList_append
  exact ⟨String.ofList words, by rw [split, String.append_assoc]⟩

/-- The faults that reading one field can end in. -/
inductive SchemaFault.IsMetAt (place : String) : SchemaFault → Prop
  | ruleNotMapping (kindName : String) : IsMetAt place (.ruleNotMapping place kindName)
  | unknownType (literal : String) : IsMetAt place (.unknownType place literal)
  | validateNotMapping : IsMetAt place (.validateNotMapping place)
  | nestedNotMapping : IsMetAt place (.nestedNotMapping place)
  | emptyKey : IsMetAt place (.emptyKey place)

theorem SchemaFault.IsMetAt.tells {place : String} {fault : SchemaFault}
    (met : fault.IsMetAt place) : TellsOf place (Fault.schema fault).message := by
  cases met with
  | ruleNotMapping kindName =>
      exact (tells_of_opening place rfl).append kindName
  | unknownType literal =>
      exact (((tells_of_opening place rfl).append literal).append _).append _
  | validateNotMapping => exact tells_of_opening place rfl
  | nestedNotMapping => exact tells_of_opening place rfl
  | emptyKey => exact tells_of_opening place rfl

namespace RuleHead

section Met

variable {place : String} {given : Declaration} {own : SchemaFault}

theorem read_tag_met (read : readTag place given = .error (.schema own)) : own.IsMetAt place := by
  cases given with
  | null => cases read
  | list items => cases read
  | mapping entries => cases read
  | text name =>
      cases named : TypeTag.ofName? name with
      | some tag => simp [readTag, named] at read
      | none =>
          simp only [readTag, named] at read
          cases read
          exact .unknownType _
  | _ =>
      cases read
      exact .unknownType _

theorem read_validation_met (read : readValidation place given = .error (.schema own)) :
    own.IsMetAt place := by
  unfold readValidation at read
  split at read <;> cases read
  exact .validateNotMapping

theorem read_fields_met (read : readFields place given = .error (.schema own)) :
    own.IsMetAt place := by
  unfold readFields at read
  split at read <;> cases read
  exact .nestedNotMapping

theorem read_met (read : RuleHead.read place given = .error (.schema own)) :
    own.IsMetAt place := by
  cases given with
  | mapping entries =>
      rcases Run.except_bind_error read with tag | ⟨_, _, read⟩
      · exact read_tag_met tag
      · rcases Run.except_bind_error read with validation | ⟨_, _, read⟩
        · exact read_validation_met validation
        · rcases Run.except_bind_error read with fields | ⟨_, _, impossible⟩
          · exact read_fields_met fields
          · cases impossible
  | _ =>
      cases read
      exact .ruleNotMapping _

end Met

end RuleHead

/-! ## Fields -/

/-- A field with the keys of the rules around it, the outermost first. -/
structure DeclaredField where
  around : List String
  key : String
  given : Declaration

namespace DeclaredField

def dotted (keys : List String) : String := String.ofList (joined ['.'] (keys.map String.toList))

/-- Apart from the fields inside it nothing is wrong with the field. -/
structure IsSound (field : DeclaredField) : Prop where
  named : field.key ≠ ""
  rule : RuleHead.IsSound field.given

/-- The keys under which a fault of the field is told. A field without a name is told under those
of the rule around it. -/
def place (field : DeclaredField) : String :=
  if field.key = "" then dotted field.around else dotted (field.around ++ [field.key])

def site (field : DeclaredField) : Site :=
  if field.key = "" then .nameless field.place else .rule field.place field.given

theorem site_sound_iff (field : DeclaredField) : field.site.IsSound ↔ field.IsSound := by
  rw [site]
  by_cases nameless : field.key = ""
  · rw [if_pos nameless]
    exact iff_of_false id fun sound => sound.named nameless
  · rw [if_neg nameless]
    exact ⟨fun sound => ⟨nameless, sound⟩, IsSound.rule⟩

theorem judge_met {field : DeclaredField} {own : SchemaFault}
    (judged : field.site.judge = .error (.schema own)) : own.IsMetAt field.place := by
  rw [site] at judged
  split at judged
  · cases judged
    exact .emptyKey
  · exact RuleHead.read_met ((Run.discard_error_iff _ _).mp judged)

theorem judge_hashable {field : DeclaredField} {fault : Fault}
    (hashable : (field.given.getOrNull "type").isHashable = true)
    (judged : field.site.judge = .error fault) : ∃ own, fault = .schema own := by
  rcases Site.judge_error judged with own | ⟨_, unhashable⟩
  · exact own
  · rw [site] at unhashable
    split at unhashable
    · cases unhashable
    · exact absurd (hashable.symm.trans unhashable) (by decide)

theorem dotted_single (key : String) : dotted [key] = key := String.ofList_toList

/-- Names are joined by points as reading goes down. -/
theorem dotted_snoc {keys : List String} (named : ∀ key ∈ keys, key ≠ "") (key : String) :
    Schema.placeOf (dotted keys) key = dotted (keys ++ [key]) := by
  cases keys with
  | nil => exact (dotted_single key).symm
  | cons first rest =>
      have long : dotted (first :: rest) ≠ "" := by
        intro empty
        obtain ⟨more, begins⟩ :=
          joined_begins_with ['.'] first.toList (rest.map String.toList)
        have letters := congrArg String.toList empty
        rw [dotted, String.toList_ofList, List.map_cons, begins] at letters
        have none := (List.append_eq_nil_iff.mp letters).1
        exact named first List.mem_cons_self (String.toList_eq_nil_iff.mp none)
      have outer : (first :: rest).map String.toList ≠ [] := List.cons_ne_nil _ _
      have own : [key].map String.toList ≠ [] := List.cons_ne_nil _ _
      rw [Schema.placeOf, if_neg long, dotted, dotted, List.map_append,
        joined_append _ outer own, String.ofList_append, String.ofList_append]
      exact congrArg _ (dotted_single key).symm

end DeclaredField

namespace Schema

open DeclaredField

mutual

def fieldsAt (around : List String) : List (String × Declaration) → List DeclaredField
  | [] => []
  | (key, given) :: rest =>
      ⟨around, key, given⟩ :: (fieldsOf (around ++ [key]) given ++ fieldsAt around rest)

/-- The fields inside a rule. -/
def fieldsOf (keys : List String) : Declaration → List DeclaredField
  | .mapping entries => innerFields keys entries
  | _ => []

/-- The fields of the schema among the entries of a rule. -/
def innerFields (keys : List String) : List (String × Declaration) → List DeclaredField
  | [] => []
  | (key, given) :: rest =>
      if key = "schema" then
        match given with
        | .mapping entries => fieldsAt keys entries
        | _ => []
      else innerFields keys rest

end

/-- All fields of a declared schema, in the order of their declaration and outer ones first. -/
def declaredFields (entries : List (String × Declaration)) : List DeclaredField :=
  fieldsAt [] entries

def judgeFields (fields : List DeclaredField) : Except Fault Unit :=
  forM fields fun field => field.site.judge

mutual

-- The sites of a schema end at a field without a name and the row of its fields goes on below it,
-- but no reading comes that far.

theorem fields_judged : ∀ (around : List String) (entries : List (String × Declaration)),
    (∀ key ∈ around, key ≠ "") →
      judgeFields (fieldsAt around entries) = forM (sitesAt (dotted around) entries) Site.judge
  | around, [], _ => rfl
  | around, (key, given) :: rest, named => by
      by_cases nameless : key = ""
      · subst nameless
        rfl
      · have keys : ∀ each ∈ around ++ [key], each ≠ "" := by
          intro each member
          rcases List.mem_append.mp member with outer | own
          · exact named each outer
          · rwa [List.mem_singleton.mp own]
        have own : (DeclaredField.mk around key given).site =
            .rule (dotted (around ++ [key])) given := by
          simp only [site, place, if_neg nameless]
        have later := fields_judged around rest named
        have inside := rule_fields_judged (around ++ [key]) given keys
        rw [sitesAt, if_neg nameless, dotted_snoc named, List.forM_append, ← later, inside,
          bind_assoc, fieldsAt, judgeFields, List.forM_cons, List.forM_append, own]
        rfl

theorem rule_fields_judged : ∀ (keys : List String) (given : Declaration),
    (∀ key ∈ keys, key ≠ "") →
      forM (ruleSites (dotted keys) given) Site.judge =
        (Site.rule (dotted keys) given).judge >>= fun _ => judgeFields (fieldsOf keys given)
  | keys, .mapping entries, named => by
      rw [ruleSites, List.forM_cons, ← inner_fields_judged keys entries named, fieldsOf]
  | keys, .null, _ => rfl
  | keys, .bool _, _ => rfl
  | keys, .integer _, _ => rfl
  | keys, .float _, _ => rfl
  | keys, .text _, _ => rfl
  | keys, .list _, _ => rfl
  | keys, .callable _, _ => rfl

theorem inner_fields_judged : ∀ (keys : List String) (entries : List (String × Declaration)),
    (∀ key ∈ keys, key ≠ "") →
      judgeFields (innerFields keys entries) = forM (innerSites (dotted keys) entries) Site.judge
  | keys, [], _ => rfl
  | keys, (key, given) :: rest, named => by
      by_cases own : key = "schema"
      · cases given with
        | mapping entries =>
            rw [innerFields, if_pos own, innerSites, if_pos own]
            exact fields_judged keys entries named
        | _ =>
            simp only [innerFields, innerSites, if_pos own]
            rfl
      · have later := inner_fields_judged keys rest named
        cases given <;> simpa only [innerFields, innerSites, if_neg own] using later

end

/-- Reading is judging the row of fields. -/
theorem read_judges_fields (entries : List (String × Declaration)) :
    Run.discard (read (.mapping entries)) = judgeFields (declaredFields entries) := by
  rw [declaredFields, fields_judged [] entries (by simp)]
  exact read_rules_judged "" entries

/-- Where every type could be the name of one, a declared schema is read exactly when all its
fields are sound. Otherwise the fault is one of the schema, and its message opens with the keys of
the first field that is not. -/
theorem declared_read_or_first_fault (entries : List (String × Declaration))
    (scalars : ∀ field ∈ declaredFields entries,
      (field.given.getOrNull "type").isHashable = true) :
    ((∃ schema, read (.mapping entries) = .ok schema) ↔
        ∀ field ∈ declaredFields entries, field.IsSound) ∧
      ((¬∃ schema, read (.mapping entries) = .ok schema) →
        ∃ before field after fault, declaredFields entries = before ++ field :: after ∧
          (∀ other ∈ before, other.IsSound) ∧ ¬field.IsSound ∧
          read (.mapping entries) = .error (.schema fault) ∧
          TellsOf field.place (Fault.schema fault).message) := by
  have judged := read_judges_fields entries
  constructor
  · rw [← Run.discard_ok_iff, judged, judgeFields, Run.for_all_ok_iff]
    simp only [Site.judge_ok_iff, site_sound_iff]
  · intro unread
    cases made : read (.mapping entries) with
    | ok schema => exact absurd ⟨schema, made⟩ unread
    | error fault =>
        have failed := (Run.discard_error_iff _ fault).mpr made
        rw [judged, judgeFields, Run.for_all_error_iff] at failed
        obtain ⟨before, field, after, listed, sound, own⟩ := failed
        have inside : field ∈ declaredFields entries := by
          rw [listed]
          exact List.mem_append_right before List.mem_cons_self
        obtain ⟨fault, rfl⟩ := judge_hashable (scalars field inside) own
        refine ⟨before, field, after, fault, listed, ?_, ?_, rfl, (judge_met own).tells⟩
        · intro other member
          exact (site_sound_iff other).mp ((Site.judge_ok_iff _).mp (sound other member))
        · intro fieldSound
          have passed := (Site.judge_ok_iff _).mpr ((site_sound_iff field).mpr fieldSound)
          rw [passed] at own
          cases own

/-- A field without a name below a rule that is no container, before a rule that is no mapping. -/
def catalogue : List (String × Declaration) :=
  [("size", .mapping [("type", .text "integer")]),
   ("cover", .mapping
     [("type", .text "string"),
      ("schema", .mapping [("art", .mapping [("schema", .mapping [("", .null)])])])]),
   ("title", .integer 5)]

theorem catalogue_first_fault :
    (∀ field ∈ declaredFields catalogue, (field.given.getOrNull "type").isHashable = true) ∧
      ∃ before field after, declaredFields catalogue = before ++ field :: after ∧
        (∀ other ∈ before, other.IsSound) ∧ ¬field.IsSound ∧
        read (.mapping catalogue) = .error (.schema (.emptyKey "cover.art")) ∧
        TellsOf field.place "cover.art: field keys should be non-empty strings, got ''" := by
  have scalars : ∀ field ∈ declaredFields catalogue,
      (field.given.getOrNull "type").isHashable = true := by
    simp only [declaredFields, catalogue, fieldsAt, fieldsOf, innerFields]
    decide
  refine ⟨scalars, ?_⟩
  have unread : ¬∃ schema, read (.mapping catalogue) = .ok schema := by
    rintro ⟨schema, made⟩
    cases made
  obtain ⟨before, field, after, fault, listed, sound, unsound, made, tells⟩ :=
    (declared_read_or_first_fault catalogue scalars).2 unread
  cases made
  exact ⟨before, field, after, listed, sound, unsound, rfl, tells⟩

end Schema

end DocumentRules
