import DocumentRules.Proofs.Run.Results
import DocumentRules.Rule.Declared

/-!
Reading a declaration, site by site. A site is a declared rule with its place, or a field
without a name. Reading meets the sites in the order of their declaration, each rule before
what lies inside it, and it is nothing but judging them one by one until one is at fault. So
a reading ends in the fault of the first site that is not sound. All such faults are those
of a schema but one: a type that is a list or a mapping is looked up before it is told that
it names nothing.
-/

set_option autoImplicit false

namespace DocumentRules

/-! ## Rules by themselves -/

theorem TypeTag.of_name_some {name : String} {tag : TypeTag} (named : ofName? name = some tag) :
    name = tag.name := by
  have same := List.find?_some named
  exact (of_decide_eq_true same).symm

namespace RuleHead

/-- Apart from the fields inside it, the declared rule is well formed. -/
structure IsSound (given : Declaration) : Prop where
  mapping : ∃ entries, given = .mapping entries
  type : given.getOrNull "type" = .null ∨
    ∃ tag : TypeTag, given.getOrNull "type" = .text tag.name
  validation : given.getOrNull "validate" = .null ∨
    ∃ entries, given.getOrNull "validate" = .mapping entries
  fields : given.getOrNull "schema" = .null ∨
    ∃ entries, given.getOrNull "schema" = .mapping entries

/-- The type is a list or a mapping. -/
def HasUnhashableType (given : Declaration) : Prop := (given.getOrNull "type").isHashable = false

section Parts

variable {given : Declaration} {fault : Fault}

theorem read_tag_ok_iff (place : String) :
    (∃ tag, readTag place given = .ok tag) ↔
      given = .null ∨ ∃ tag : TypeTag, given = .text tag.name := by
  constructor
  · rintro ⟨found, read⟩
    cases given with
    | null => exact Or.inl rfl
    | text name =>
        cases named : TypeTag.ofName? name with
        | none => simp [readTag, named] at read
        | some tag => exact Or.inr ⟨tag, congrArg Datum.text (TypeTag.of_name_some named)⟩
    | _ => cases read
  · rintro (rfl | ⟨tag, rfl⟩)
    · exact ⟨none, rfl⟩
    · exact ⟨some tag, by simp only [readTag, TypeTag.of_name_name]⟩

theorem read_tag_error {place : String} (read : readTag place given = .error fault) :
    (∃ own, fault = .schema own) ∨ (fault = .unhashableType ∧ given.isHashable = false) := by
  cases given with
  | null => cases read
  | list items =>
      cases read
      exact Or.inr ⟨rfl, rfl⟩
  | mapping entries =>
      cases read
      exact Or.inr ⟨rfl, rfl⟩
  | text name =>
      cases named : TypeTag.ofName? name with
      | none =>
          simp only [readTag, named] at read
          cases read
          exact Or.inl ⟨_, rfl⟩
      | some tag => simp [readTag, named] at read
  | _ =>
      cases read
      exact Or.inl ⟨_, rfl⟩

theorem read_tag_unhashable (place : String) (unhashable : given.isHashable = false) :
    readTag place given = .error .unhashableType := by
  cases given with
  | list items => rfl
  | mapping entries => rfl
  | _ => cases unhashable

theorem read_validation_ok_iff (place : String) :
    (∃ validation, readValidation place given = .ok validation) ↔
      given = .null ∨ ∃ entries, given = .mapping entries := by
  cases given <;> simp [readValidation]

theorem read_validation_error {place : String}
    (read : readValidation place given = .error fault) :
    ∃ own, fault = .schema own := by
  unfold readValidation at read
  split at read <;> cases read
  exact ⟨_, rfl⟩

theorem read_fields_ok_iff (place : String) :
    (∃ hasFields, readFields place given = .ok hasFields) ↔
      given = .null ∨ ∃ entries, given = .mapping entries := by
  cases given <;> simp [readFields]

theorem read_fields_error {place : String} (read : readFields place given = .error fault) :
    ∃ own, fault = .schema own := by
  unfold readFields at read
  split at read <;> cases read
  exact ⟨_, rfl⟩

theorem read_ok_iff (place : String) :
    (∃ head, RuleHead.read place given = .ok head) ↔ IsSound given := by
  constructor
  · rintro ⟨head, read⟩
    cases given with
    | mapping entries =>
        obtain ⟨tag, own, read⟩ := Run.except_bind_ok read
        obtain ⟨validation, validated, read⟩ := Run.except_bind_ok read
        obtain ⟨hasFields, fields, read⟩ := Run.except_bind_ok read
        exact ⟨⟨entries, rfl⟩, (read_tag_ok_iff place).mp ⟨tag, own⟩,
          (read_validation_ok_iff place).mp ⟨validation, validated⟩,
          (read_fields_ok_iff place).mp ⟨hasFields, fields⟩⟩
    | _ => cases read
  · intro sound
    obtain ⟨entries, rfl⟩ := sound.mapping
    obtain ⟨tag, own⟩ := (read_tag_ok_iff place).mpr sound.type
    obtain ⟨validation, validated⟩ := (read_validation_ok_iff place).mpr sound.validation
    obtain ⟨hasFields, fields⟩ := (read_fields_ok_iff place).mpr sound.fields
    simp only [RuleHead.read, own, validated, fields]
    exact ⟨_, rfl⟩

theorem read_error {place : String} (read : RuleHead.read place given = .error fault) :
    (∃ own, fault = .schema own) ∨ (fault = .unhashableType ∧ HasUnhashableType given) := by
  cases given with
  | mapping entries =>
      rcases Run.except_bind_error read with own | ⟨tag, _, read⟩
      · exact read_tag_error own
      · rcases Run.except_bind_error read with own | ⟨validation, _, read⟩
        · exact Or.inl (read_validation_error own)
        · rcases Run.except_bind_error read with own | ⟨hasFields, _, read⟩
          · exact Or.inl (read_fields_error own)
          · cases read
  | _ =>
      cases read
      exact Or.inl ⟨_, rfl⟩

theorem read_unhashable (place : String) (unhashable : HasUnhashableType given) :
    RuleHead.read place given = .error .unhashableType := by
  cases given with
  | mapping entries =>
      have tag := read_tag_unhashable place unhashable
      simp only [RuleHead.read, tag]
      rfl
  | _ => cases unhashable

end Parts

end RuleHead

/-! ## Sites -/

inductive Site where
  | rule (place : String) (given : Declaration)
  /-- A field without a name, in the schema at a place. -/
  | nameless (place : String)

namespace Site

def IsSound : Site → Prop
  | .rule _ given => RuleHead.IsSound given
  | .nameless _ => False

def HasUnhashableType : Site → Prop
  | .rule _ given => RuleHead.HasUnhashableType given
  | .nameless _ => False

def judge : Site → Except Fault Unit
  | .rule place given => Run.discard (RuleHead.read place given)
  | .nameless place => .error (.schema (.emptyKey place))

theorem judge_ok_iff (site : Site) : site.judge = .ok () ↔ site.IsSound := by
  cases site with
  | rule place given => exact (Run.discard_ok_iff _).trans (RuleHead.read_ok_iff place)
  | nameless place =>
      constructor
      · intro judged
        cases judged
      · intro impossible
        cases impossible

theorem judge_error {site : Site} {fault : Fault} (judged : site.judge = .error fault) :
    (∃ own, fault = .schema own) ∨ (fault = .unhashableType ∧ site.HasUnhashableType) := by
  cases site with
  | rule place given => exact RuleHead.read_error ((Run.discard_error_iff _ _).mp judged)
  | nameless place =>
      cases judged
      exact Or.inl ⟨_, rfl⟩

theorem judge_unhashable {site : Site} (unhashable : site.HasUnhashableType) :
    site.judge = .error .unhashableType := by
  cases site with
  | rule place given =>
      exact (Run.discard_error_iff _ _).mpr (RuleHead.read_unhashable place unhashable)
  | nameless place => cases unhashable

end Site

namespace Schema

mutual

def sitesAt (place : String) : List (String × Declaration) → List Site
  | [] => []
  | (key, given) :: rest =>
      (if key = "" then [.nameless place] else ruleSites (placeOf place key) given) ++
        sitesAt place rest

def ruleSites (place : String) : Declaration → List Site
  | .mapping entries => .rule place (.mapping entries) :: innerSites place entries
  | given => [.rule place given]

/-- The sites of the schema among the entries of a rule. -/
def innerSites (place : String) : List (String × Declaration) → List Site
  | [] => []
  | (key, given) :: rest =>
      if key = "schema" then
        match given with
        | .mapping entries => sitesAt place entries
        | _ => []
      else innerSites place rest

end

/-- What a declared schema is made of, in the order of its declaration, outer rules first. -/
def sites (entries : List (String × Declaration)) : List Site := sitesAt "" entries

end Schema

namespace Schema

mutual

-- Along the mutual recursion of the reading: every step of it judges the sites that the same
-- step of the listing puts first, and hands the rest on.

theorem read_rules_judged : ∀ (place : String) (entries : List (String × Declaration)),
    Run.discard (readRules place entries) = forM (sitesAt place entries) Site.judge
  | place, [] => rfl
  | place, (key, given) :: rest => by
      by_cases nameless : key = ""
      · rw [readRules, if_pos nameless, sitesAt, if_pos nameless]
        rfl
      · have own := read_rule_judged (placeOf place key) given
        have later := read_rules_judged place rest
        rw [readRules, if_neg nameless, sitesAt, if_neg nameless, List.forM_append, ← own, ← later]
        exact Run.discard_both _ _ _

theorem read_rule_judged : ∀ (place : String) (given : Declaration),
    Run.discard (readRule place given) = forM (ruleSites place given) Site.judge
  | place, .mapping entries => by
      have inside := read_fields_judged place entries
      rw [readRule, ruleSites, List.forM_cons, ← inside]
      exact Run.discard_both _ _ _
  | place, .null => rfl
  | place, .bool _ => rfl
  | place, .integer _ => rfl
  | place, .float _ => rfl
  | place, .text _ => rfl
  | place, .list _ => rfl
  | place, .callable _ => rfl

theorem read_fields_judged : ∀ (place : String) (entries : List (String × Declaration)),
    Run.discard (readFields place entries) = forM (innerSites place entries) Site.judge
  | place, [] => rfl
  | place, (key, given) :: rest => by
      by_cases own : key = "schema"
      · cases given with
        | mapping entries =>
            have inside := read_rules_judged place entries
            rw [readFields, if_pos own, innerSites, if_pos own, ← inside]
            exact Run.discard_map _ _
        | _ => simp only [readFields, innerSites, if_pos own]; rfl
      · have later := read_fields_judged place rest
        cases given <;> simpa only [readFields, innerSites, if_neg own] using later

end

/-- A declared schema is read exactly when all its sites are sound. -/
theorem read_ok_iff (entries : List (String × Declaration)) :
    (∃ schema, read (.mapping entries) = .ok schema) ↔ ∀ site ∈ sites entries, site.IsSound := by
  simp only [← Site.judge_ok_iff]
  rw [← Run.for_all_ok_iff, sites, ← read_rules_judged]
  exact (Run.discard_ok_iff _).symm

/-- Otherwise the fault is that of the first site that is not sound. -/
theorem read_error_iff (entries : List (String × Declaration)) (fault : Fault) :
    read (.mapping entries) = .error fault ↔
      ∃ before site after, sites entries = before ++ site :: after ∧
        (∀ other ∈ before, other.IsSound) ∧ site.judge = .error fault := by
  simp only [← Site.judge_ok_iff]
  rw [← Run.for_all_error_iff, sites, ← read_rules_judged]
  exact (Run.discard_error_iff _ _).symm

theorem read_fault {given : Declaration} {fault : Fault} (made : read given = .error fault) :
    (∃ own, fault = .schema own) ∨ fault = .unhashableType := by
  cases given with
  | mapping entries =>
      obtain ⟨before, site, after, _, _, judged⟩ := (read_error_iff entries fault).mp made
      rcases Site.judge_error judged with own | ⟨unhashable, _⟩
      · exact Or.inl own
      · exact Or.inr unhashable
  | _ =>
      cases made
      exact Or.inl ⟨_, rfl⟩

/-- The first site that is not sound is a rule whose type is a list or a mapping. -/
def MeetsUnhashableType (entries : List (String × Declaration)) : Prop :=
  ∃ before site after, sites entries = before ++ site :: after ∧
    (∀ other ∈ before, other.IsSound) ∧ site.HasUnhashableType

theorem read_unhashable_iff (entries : List (String × Declaration)) :
    read (.mapping entries) = .error .unhashableType ↔ MeetsUnhashableType entries := by
  rw [read_error_iff]
  constructor
  · rintro ⟨before, site, after, listed, sound, judged⟩
    rcases Site.judge_error judged with ⟨own, impossible⟩ | ⟨_, unhashable⟩
    · cases impossible
    · exact ⟨before, site, after, listed, sound, unhashable⟩
  · rintro ⟨before, site, after, listed, sound, unhashable⟩
    exact ⟨before, site, after, listed, sound, Site.judge_unhashable unhashable⟩

/-- Reading a declaration gives a schema or a fault of one, unless the first fault it meets is
that of a type in a list or a mapping, which is no fault of a schema. -/
theorem declared_read_unless_unhashable (entries : List (String × Declaration)) :
    (((∃ schema, read (.mapping entries) = .ok schema) ∨
        ∃ fault, read (.mapping entries) = .error (.schema fault)) ↔
      ¬MeetsUnhashableType entries) ∧
      (read (.mapping entries) = .error .unhashableType ↔ MeetsUnhashableType entries) := by
  have unhashable := read_unhashable_iff entries
  refine ⟨?_, unhashable⟩
  rw [← unhashable]
  cases made : read (.mapping entries) with
  | ok schema => simp
  | error fault =>
      rcases read_fault made with ⟨own, rfl⟩ | rfl
      · simp
      · simp

/-- Nothing is wrong with this rule but the kind of its type. -/
theorem listed_type_unread :
    ¬((∃ schema, read (.mapping [("a", .mapping [("type", .list [])])]) = .ok schema) ∨
      ∃ fault, read (.mapping [("a", .mapping [("type", .list [])])]) = .error (.schema fault)) := by
  rintro (⟨schema, made⟩ | ⟨fault, made⟩)
  · cases made
  · cases made

end Schema

end DocumentRules
