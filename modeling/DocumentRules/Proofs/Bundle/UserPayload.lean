import DocumentRules.Contract
import DocumentRules.Proofs.Document.Search
import DocumentRules.Proofs.Predicate.Verdicts

/-!
What the bundled contract asks of a user's payload. The contract is loaded wherever it is
installed and no file stands in its way; checking a container against it finds nothing exactly
for the payloads described here, field by field, and comes to an end for all that can be
written.
-/

set_option autoImplicit false

namespace DocumentRules.Bundle

open Format Predicate

/-! ## The description -/

/-- A pattern, with flags or without, is found in a text. -/
def Matches (written : String) (arguments : List Value) : Prop :=
  matchesTest (.text written) arguments = .ok true

def namePattern : List Value := [.text "^[a-zA-Z0-9]+$", .text "i"]

def phonePattern : List Value := [.text "^\\+?[0-9 ]\x7b6,20\x7d$"]

def rolePattern : List Value := [.text "^[A-Z]+$"]

def IsUsername (value : Value) : Prop :=
  ∃ name, value = .text name ∧ 5 ≤ name.length ∧ name.length ≤ 50 ∧ Matches name namePattern

def IsEmail (value : Value) : Prop :=
  ∃ address, value = .text address ∧ mailTest (.text address) [] = .ok true

structure IsSettings (value : Value) : Prop where
  object : ∃ entries, value = .mapping entries
  locale : value.getOrNull "locale" = .null ∨
    ∃ code ∈ ["en", "fr", "de"], value.getOrNull "locale" = .text code
  newsletter : value.getOrNull "optinNewsletter" = .null ∨
    ∃ truth, value.getOrNull "optinNewsletter" = .bool truth

structure IsRole (value : Value) : Prop where
  object : ∃ entries, value = .mapping entries ∧ ∀ entry ∈ entries, entry.1 ∈ ["name", "until"]
  name : ∃ name, value.getOrNull "name" = .text name ∧ 3 ≤ name.length ∧ name.length ≤ 10 ∧
    Matches name rolePattern
  limit : value.getOrNull "until" = .null ∨
    ∃ day, value.getOrNull "until" = .text day ∧ isDateOrMoment day.toList = true

structure IsUserPayload (value : Value) : Prop where
  object : ∃ entries, value = .mapping entries ∧
    ∀ entry ∈ entries, entry.1 ∈ ["username", "email", "phone", "settings", "roles"]
  username : IsUsername (value.getOrNull "username")
  email : IsEmail (value.getOrNull "email")
  phone : value.getOrNull "phone" = .null ∨
    ¬(value.getOrNull "phone").HoldsLong ∧ Matches (value.getOrNull "phone").subject phonePattern
  settings : value.getOrNull "settings" = .null ∨ IsSettings (value.getOrNull "settings")
  roles : value.getOrNull "roles" = .null ∨
    ∃ items, value.getOrNull "roles" = .list items ∧ 1 ≤ items.length ∧ items.length ≤ 9999 ∧
      ∀ item ∈ items, IsRole item

/-! ## The rules -/

/-- A rule that asks for validators and nothing else. -/
def fieldRule (allowNull : Bool) (validation : List (String × Declaration)) : Rule :=
  ⟨none, allowNull, some validation, none, true⟩

def keysRule (keys : List String) : Rule := fieldRule false [("allowedKeys", texts keys)]

def usernameRule : Rule :=
  fieldRule false
    [("isString", .bool true), ("is", texts ["^[a-zA-Z0-9]+$", "i"]),
     ("len", .list [.integer 5, .integer 50])]

def emailRule : Rule := fieldRule false [("isString", .bool true), ("isEmail", .bool true)]

def phoneRule : Rule := fieldRule true [("matches", .text "^\\+?[0-9 ]\x7b6,20\x7d$")]

def localeRule : Rule := fieldRule true [("isIn", texts ["en", "fr", "de"])]

def newsletterRule : Rule := ⟨some .boolean, true, none, none, true⟩

def settingsRule : Rule :=
  ⟨some .object, true, none, some [("locale", localeRule), ("optinNewsletter", newsletterRule)],
    true⟩

def roleNameRule : Rule :=
  ⟨some .string, false,
    some [("len", .list [.integer 3, .integer 10]), ("matches", .text "^[A-Z]+$")], none, true⟩

def limitRule : Rule := fieldRule true [("isDate", .bool true)]

def rolesRule : Rule :=
  ⟨some .array, true, some [("size", .list [.integer 1, .integer 9999])],
    some [("$", keysRule ["name", "until"]), ("name", roleNameRule), ("until", limitRule)], true⟩

def userKeys : List String := ["username", "email", "phone", "settings", "roles"]

def userSchema : Schema :=
  [("$", keysRule userKeys), ("username", usernameRule), ("email", emailRule),
   ("phone", phoneRule), ("settings", settingsRule), ("roles", rolesRule)]

theorem read_user_schema : Schema.read (userPayloadSchema : Declaration) = .ok userSchema := rfl

theorem user_table : userSchema.table =
    [⟨[], keysRule userKeys⟩, ⟨[.field "username"], usernameRule⟩, ⟨[.field "email"], emailRule⟩,
     ⟨[.field "phone"], phoneRule⟩, ⟨[.field "settings", .field "locale"], localeRule⟩,
     ⟨[.field "settings", .field "optinNewsletter"], newsletterRule⟩,
     ⟨[.field "settings"], settingsRule⟩,
     ⟨[.field "roles", .every], keysRule ["name", "until"]⟩,
     ⟨[.field "roles", .every, .field "name"], roleNameRule⟩,
     ⟨[.field "roles", .every, .field "until"], limitRule⟩, ⟨[.field "roles"], rolesRule⟩] := rfl

/-! ## What the rules admit -/

section Rules

open CheckStep

theorem keys_steps (keys : List String) : CheckStep.ofRule bundledOnly (keysRule keys) =
    .ok [ofTest "allowedKeys" allowedKeysTest .several (keys.map .text) false] := by
  have plain : (keys.map (Datum.text : String → Declaration)).map Datum.plain =
      keys.map Datum.text := by
    simp [Datum.plain, Datum.relabel]
  rw [← plain]
  rfl

theorem username_steps : CheckStep.ofRule bundledOnly usernameRule =
    .ok [ofTest "isString" isTextTest .none [] false,
      ofTest "is" matchesTest .several namePattern true,
      ofTest "len" lengthTest .several [.integer 5, .integer 50] true] := rfl

theorem email_steps : CheckStep.ofRule bundledOnly emailRule =
    .ok [ofTest "isString" isTextTest .none [] false, ofTest "isEmail" mailTest .none [] true] :=
  rfl

theorem phone_steps : CheckStep.ofRule bundledOnly phoneRule =
    .ok [ofTest "matches" matchesTest .single phonePattern true] := rfl

theorem locale_steps : CheckStep.ofRule bundledOnly localeRule =
    .ok [ofTest "isIn" amongTest .several (["en", "fr", "de"].map .text) true] := rfl

theorem newsletter_steps : CheckStep.ofRule bundledOnly newsletterRule =
    .ok [.typeTest (.text TypeTag.boolean.name)] := rfl

theorem settings_steps : CheckStep.ofRule bundledOnly settingsRule =
    .ok [.typeTest (.text TypeTag.object.name)] := rfl

theorem role_name_steps : CheckStep.ofRule bundledOnly roleNameRule =
    .ok [.typeTest (.text TypeTag.string.name),
      ofTest "len" lengthTest .several [.integer 3, .integer 10] true,
      ofTest "matches" matchesTest .single rolePattern true] := rfl

theorem limit_steps : CheckStep.ofRule bundledOnly limitRule =
    .ok [ofTest "isDate" (textOnlyTest isDateOrMoment) .none [] true] := rfl

theorem roles_steps : CheckStep.ofRule bundledOnly rolesRule =
    .ok [.typeTest (.text TypeTag.array.name),
      ofTest "size" sizeTest .several [.integer 1, .integer 9999] false] := rfl

variable (value : Value)

theorem admitted_keys (keys : List String) :
    (keysRule keys).Admits bundledOnly value ↔
      ∃ entries, value = .mapping entries ∧ ∀ entry ∈ entries, entry.1 ∈ keys := by
  rw [Rule.admits_iff (keys_steps keys), List.forall_mem_singleton, passes_raw, allowed_keys,
    Except.ok.injEq, has_only_keys_iff]
  constructor
  · rintro (⟨_, impossible⟩ | ⟨_, mapping⟩)
    · cases impossible
    · exact mapping
  · rintro ⟨entries, rfl, only⟩
    exact Or.inr ⟨by simp, entries, rfl, only⟩

theorem username_admits : usernameRule.Admits bundledOnly value ↔ IsUsername value := by
  simp only [Rule.admits_iff username_steps, List.forall_mem_cons,
    List.not_mem_nil, false_implies, implies_true, and_true, passes_raw, passes_textual, text_test,
    length_between, Except.ok.injEq, decide_eq_true_eq]
  constructor
  · rintro (⟨_, impossible⟩ | ⟨_, text, ⟨_, found⟩, _, low, high⟩)
    · cases impossible
    · cases value with
      | text name =>
          rw [Datum.subject_text] at found low high
          exact ⟨name, rfl, by omega, by omega, found⟩
      | _ => cases text
  · rintro ⟨name, rfl, low, high, found⟩
    rw [Datum.subject_text]
    exact Or.inr ⟨by simp, rfl, ⟨rfl, found⟩, rfl, by omega, by omega⟩

theorem email_admits : emailRule.Admits bundledOnly value ↔ IsEmail value := by
  simp only [Rule.admits_iff email_steps, List.forall_mem_cons,
    List.not_mem_nil, false_implies, implies_true, and_true, passes_raw, passes_textual, text_test,
    Except.ok.injEq]
  constructor
  · rintro (⟨_, impossible⟩ | ⟨_, text, _, mail⟩)
    · cases impossible
    · cases value with
      | text address =>
          rw [Datum.subject_text] at mail
          exact ⟨address, rfl, mail⟩
      | _ => cases text
  · rintro ⟨address, rfl, mail⟩
    rw [Datum.subject_text]
    exact Or.inr ⟨by simp, rfl, rfl, mail⟩

theorem phone_admits :
    phoneRule.Admits bundledOnly value ↔
      value = .null ∨ ¬value.HoldsLong ∧ Matches value.subject phonePattern := by
  rw [Rule.admits_iff phone_steps, List.forall_mem_singleton, passes_textual, Matches,
    Datum.writable_iff]
  by_cases null : value = .null <;> simp [null, phoneRule, fieldRule]

theorem locale_admits :
    localeRule.Admits bundledOnly value ↔
      value = .null ∨ ∃ code ∈ ["en", "fr", "de"], value = .text code := by
  rw [Rule.admits_iff locale_steps, List.forall_mem_singleton, passes_textual, among_texts,
    Except.ok.injEq, decide_eq_true_eq]
  constructor
  · rintro (⟨null, _⟩ | ⟨_, _, among⟩)
    · exact Or.inl null
    · have word : ∃ written, value = .text written := by
        simp only [List.mem_cons, List.not_mem_nil, or_false] at among
        have letters (first : Char) (rest : List Char) (word : value.subject.toList = first :: rest)
            (letter : first ∈ ['e', 'f', 'd']) : ∃ written, value = .text written := by
          have plain : ∀ c ∈ ['e', 'f', 'd'],
              c ∉ Datum.leadingMarks ∧ c.isDigit = false ∧ c ≠ '.' := by
            rw [List.forall_mem_cons, List.forall_mem_cons, List.forall_mem_singleton]
            decide
          obtain ⟨unmarked, noDigit, noPoint⟩ := plain first letter
          exact Datum.text_of_word_subject word unmarked noDigit noPoint
        rcases among with same | same | same
        · exact letters 'e' ['n'] (by rw [same]; rfl) (by decide)
        · exact letters 'f' ['r'] (by rw [same]; rfl) (by decide)
        · exact letters 'd' ['e'] (by rw [same]; rfl) (by decide)
      obtain ⟨code, rfl⟩ := word
      rw [Datum.subject_text] at among
      exact Or.inr ⟨code, among, rfl⟩
  · rintro (null | ⟨code, among, rfl⟩)
    · exact Or.inl ⟨null, rfl⟩
    · rw [Datum.subject_text]
      exact Or.inr ⟨by simp, rfl, among⟩

theorem newsletter_admits :
    newsletterRule.Admits bundledOnly value ↔ value = .null ∨ ∃ truth, value = .bool truth := by
  rw [Rule.admits_iff newsletter_steps, List.forall_mem_singleton, passes_type]
  cases value <;> simp [newsletterRule, TypeTag.admits]

theorem settings_admits :
    settingsRule.Admits bundledOnly value ↔
      value = .null ∨ ∃ entries, value = .mapping entries := by
  rw [Rule.admits_iff settings_steps, List.forall_mem_singleton, passes_type]
  cases value <;> simp [settingsRule, TypeTag.admits]

theorem role_name_admits :
    roleNameRule.Admits bundledOnly value ↔
      ∃ name, value = .text name ∧ 3 ≤ name.length ∧ name.length ≤ 10 ∧
        Matches name rolePattern := by
  simp only [Rule.admits_iff role_name_steps, List.forall_mem_cons, List.not_mem_nil, false_implies,
    implies_true, and_true, passes_type, passes_textual, length_between, Except.ok.injEq,
    decide_eq_true_eq]
  constructor
  · rintro (⟨_, impossible⟩ | ⟨_, text, ⟨_, low, high⟩, _, found⟩)
    · cases impossible
    · cases value with
      | text name =>
          rw [Datum.subject_text] at found low high
          exact ⟨name, rfl, by omega, by omega, found⟩
      | _ => cases text
  · rintro ⟨name, rfl, low, high, found⟩
    rw [Datum.subject_text]
    exact Or.inr ⟨by simp, rfl, ⟨rfl, by omega⟩, rfl, found⟩

theorem limit_admits :
    limitRule.Admits bundledOnly value ↔
      value = .null ∨ ∃ day, value = .text day ∧ isDateOrMoment day.toList = true := by
  rw [Rule.admits_iff limit_steps, List.forall_mem_singleton, passes_textual, textOnlyTest,
    Except.ok.injEq]
  constructor
  · rintro (⟨null, _⟩ | ⟨_, _, date⟩)
    · exact Or.inl null
    · obtain ⟨day, rfl⟩ := Datum.text_of_date_subject date
      rw [Datum.subject_text] at date
      exact Or.inr ⟨day, rfl, date⟩
  · rintro (null | ⟨day, rfl, date⟩)
    · exact Or.inl ⟨null, rfl⟩
    · rw [Datum.subject_text]
      exact Or.inr ⟨by simp, rfl, date⟩

theorem admitted_roles :
    rolesRule.Admits bundledOnly value ↔
      value = .null ∨ ∃ items, value = .list items ∧ 1 ≤ items.length ∧ items.length ≤ 9999 := by
  simp only [Rule.admits_iff roles_steps, List.forall_mem_cons,
    List.not_mem_nil, false_implies, implies_true, and_true, passes_type, passes_raw, size_between,
    Except.ok.injEq]
  cases value with
  | list items =>
      simp only [hasSize, decide_eq_true_eq, Datum.list.injEq]
      constructor
      · rintro (⟨impossible, _⟩ | ⟨_, _, low, high⟩)
        · cases impossible
        · exact Or.inr ⟨items, rfl, by omega, by omega⟩
      · rintro (impossible | ⟨_, rfl, low, high⟩)
        · cases impossible
        · exact Or.inr ⟨by simp, rfl, by omega, by omega⟩
  | _ => simp [rolesRule, TypeTag.admits]

/-! ## No rule breaks down -/

theorem user_rules_decide : ∀ entry ∈ userSchema.table, entry.rule.Decides bundledOnly := by
  obtain ⟨_, nameNode⟩ : ∃ node, compiled (.text "^[a-zA-Z0-9]+$") (.text "i") = .ok node :=
    Run.ok_of_is_ok (by decide +kernel)
  obtain ⟨_, phoneNode⟩ : ∃ node,
      compiled (.text "^\\+?[0-9 ]\x7b6,20\x7d$") .null = .ok node :=
    Run.ok_of_is_ok (by decide +kernel)
  obtain ⟨_, roleNode⟩ : ∃ node, compiled (.text "^[A-Z]+$") .null = .ok node :=
    Run.ok_of_is_ok (by decide +kernel)
  have decided {steps : List CheckStep} {rule : Rule}
      (made : CheckStep.ofRule bundledOnly rule = .ok steps)
      (all : ∀ value : Value, value.isWritable = true → ∀ step ∈ steps, step.Decides value) :
      rule.Decides bundledOnly :=
    ⟨steps, made, all⟩
  have keys (names : List String) : (keysRule names).Decides bundledOnly := by
    apply decided (keys_steps names)
    intro value _
    rw [List.forall_mem_singleton]
    exact decides_raw ⟨_, allowed_keys value names⟩
  rw [user_table]
  simp only [List.forall_mem_cons, List.not_mem_nil, false_implies, implies_true, and_true]
  refine ⟨keys _, decided username_steps ?_, decided email_steps ?_, decided phone_steps ?_,
    decided locale_steps ?_, decided newsletter_steps ?_, decided settings_steps ?_, keys _,
    decided role_name_steps ?_, decided limit_steps ?_, decided roles_steps ?_⟩
  all_goals
    intro value writable
    simp only [List.forall_mem_cons, List.not_mem_nil, false_implies, implies_true, and_true]
  · exact ⟨decides_raw ⟨_, text_test value⟩,
      decides_textual writable (matches_flagged_decides _ nameNode),
      decides_textual writable ⟨_, length_between _ 5 50⟩⟩
  · exact ⟨decides_raw ⟨_, text_test value⟩, decides_textual writable (mail_decides _)⟩
  · exact decides_textual writable (matches_decides _ phoneNode)
  · exact decides_textual writable ⟨_, among_texts _ _⟩
  · exact decides_type .boolean
  · exact decides_type .object
  · exact ⟨decides_type .string, decides_textual writable ⟨_, length_between _ 3 10⟩,
      decides_textual writable (matches_decides _ roleNode)⟩
  · exact decides_textual writable ⟨_, rfl⟩
  · exact ⟨decides_type .array, decides_raw ⟨_, size_between value 1 9999⟩⟩

end Rules

/-! ## The contract -/

/-- The contract is installed, and on the disk its name leads to no file; nothing on the way to
where it would be refuses to be searched. -/
structure IsFound (disk : Disk) : Prop where
  absent : (disk.lookup (Location.ofText "user_payload.json")).isFile = false
  searched : ¬disk.IsBarred (Location.ofText "user_payload.json")
  installed : disk.lookup (disk.inLibrary (Location.ofText "user_payload.json")) =
    .file (plainBytes contractText)

theorem location_of_contract :
    Location.ofText "user_payload.json" = ⟨"", ["user_payload.json"]⟩ :=
  Location.of_text_single (by decide) (by decide) (by decide)

/-- The name of the contract is never too long to be looked up. -/
theorem contract_not_too_long (disk : Disk) :
    ¬disk.IsTooLong (Location.ofText "user_payload.json") := by
  rw [location_of_contract]
  rintro ⟨_, long | ⟨before, name, after, access, split, _, _, _, long⟩⟩
  · revert long
    decide
  · have named : name ∈ before ++ name :: after := List.mem_append_right before List.mem_cons_self
    rw [← split, List.mem_singleton] at named
    rw [named] at long
    revert long
    decide

def userContract : Contract :=
  ⟨.text "User Payload",
    .text "Sign-up payload: account fields, notification settings and role grants.",
    .text "1.0.0", userPayloadSchema, none⟩

section Installed

variable {disk : Disk} (installed : IsFound disk)

include installed

theorem IsFound.locate :
    locateDocument disk "user_payload.json" =
      .ok (.bundled "user_payload.json" (plainBytes contractText)) := by
  have name : (Location.ofText "user_payload.json").name = "user_payload.json" := by
    rw [location_of_contract]
    rfl
  have passed (fault : SourceFault) :
      ¬disk.Refuses (Location.ofText "user_payload.json") fault := by
    intro refuses
    cases refuses with
    | nameTooLong long => exact contract_not_too_long disk long
    | barred barred => exact installed.searched barred
    | closed closed =>
        have absent := installed.absent
        rw [closed] at absent
        cases absent
  rw [locate_past_disk installed.absent passed, name, candidate_found installed.installed]
  rfl

theorem IsFound.load_document :
    (loadDocument disk "user_payload.json" : Except SourceFault Declaration) = .ok userPayload := by
  rw [loadDocument, installed.locate, Except.bind, FoundDocument.read, read_contract_bytes]

theorem IsFound.load_contract :
    Contract.load disk "user_payload.json" none = .ok userContract := by
  rw [Contract.load, installed.load_document]
  rfl

end Installed

/-! ## The payloads -/

theorem settings_part (value : Value) :
    (localeRule.Admits bundledOnly (value.follow [.field "locale"]) ∧
        newsletterRule.Admits bundledOnly (value.follow [.field "optinNewsletter"]) ∧
        settingsRule.Admits bundledOnly value) ↔
      value = .null ∨ IsSettings value := by
  rw [locale_admits, newsletter_admits, settings_admits]
  constructor
  · rintro ⟨locale, newsletter, null | ⟨entries, rfl⟩⟩
    · exact Or.inl null
    · exact Or.inr ⟨⟨entries, rfl⟩, locale, newsletter⟩
  · rintro (rfl | ⟨⟨entries, rfl⟩, locale, newsletter⟩)
    · exact ⟨Or.inl rfl, Or.inl rfl, Or.inl rfl⟩
    · exact ⟨locale, newsletter, Or.inr ⟨entries, rfl⟩⟩

theorem role_part (value : Value) :
    ((keysRule ["name", "until"]).Admits bundledOnly (value.follow []) ∧
        roleNameRule.Admits bundledOnly (value.follow [.field "name"]) ∧
        limitRule.Admits bundledOnly (value.follow [.field "until"])) ↔
      IsRole value := by
  rw [admitted_keys, role_name_admits, limit_admits]
  constructor
  · rintro ⟨⟨entries, own, only⟩, name, limit⟩
    rw [Datum.follow_nil] at own
    subst own
    exact ⟨⟨entries, rfl, only⟩, name, limit⟩
  · rintro ⟨⟨entries, rfl, only⟩, name, limit⟩
    exact ⟨⟨entries, rfl, only⟩, name, limit⟩

theorem roles_part (value : Value) :
    ((∀ items, value = .list items → ∀ item ∈ items, IsRole item) ∧
        rolesRule.Admits bundledOnly value) ↔
      value = .null ∨ ∃ items, value = .list items ∧ 1 ≤ items.length ∧ items.length ≤ 9999 ∧
        ∀ item ∈ items, IsRole item := by
  rw [admitted_roles]
  constructor
  · rintro ⟨all, null | ⟨items, rfl, low, high⟩⟩
    · exact Or.inl null
    · exact Or.inr ⟨items, rfl, low, high, all items rfl⟩
  · rintro (rfl | ⟨items, rfl, low, high, all⟩)
    · refine ⟨?_, Or.inl rfl⟩
      intro items impossible
      cases impossible
    · refine ⟨?_, Or.inr ⟨items, rfl, low, high⟩⟩
      intro given same
      cases same
      exact all

/-- Every rule admits what it is applied to, exactly in the payloads that are described. -/
theorem user_rules_admit_iff (value : Value) :
    (∀ entry ∈ userSchema.table, ∀ concrete ∈ entry.path.instances value,
        entry.rule.Admits bundledOnly (value.follow concrete)) ↔ IsUserPayload value := by
  have direct (rule : Rule) (path : Path) (direct : path.hasEvery = false) :
      (∀ concrete ∈ path.instances value, rule.Admits bundledOnly (value.follow concrete)) ↔
        rule.Admits bundledOnly (value.follow path) :=
    Path.forall_instances_direct path value direct fun target => rule.Admits bundledOnly target
  have every (rule : Rule) (after : Path) (direct : after.hasEvery = false) :
      (∀ concrete ∈ Path.instances (.field "roles" :: .every :: after) value,
          rule.Admits bundledOnly (value.follow concrete)) ↔
        ∀ items, value.follow [.field "roles"] = .list items →
          ∀ item ∈ items, rule.Admits bundledOnly (item.follow after) :=
    Path.forall_instances_every [.field "roles"] after value rfl direct
      fun target => rule.Admits bundledOnly target
  rw [user_table]
  simp only [List.forall_mem_cons, List.not_mem_nil, false_implies, implies_true, and_true]
  rw [direct _ _ rfl, direct _ _ rfl, direct _ _ rfl, direct _ _ rfl, direct _ _ rfl,
    direct _ _ rfl, direct _ _ rfl, every _ _ rfl, every _ _ rfl, every _ _ rfl, direct _ _ rfl,
    admitted_keys, username_admits, email_admits, phone_admits, Datum.follow_nil]
  constructor
  · rintro ⟨⟨entries, rfl, only⟩, username, email, phone, locale, newsletter, settings,
      keys, names, limits, roles⟩
    refine ⟨⟨entries, rfl, only⟩, username, email, phone,
      (settings_part _).mp ⟨locale, newsletter, settings⟩, (roles_part _).mp ⟨?_, roles⟩⟩
    intro items same item member
    exact (role_part item).mp
      ⟨keys items same item member, names items same item member, limits items same item member⟩
  · rintro ⟨⟨entries, rfl, only⟩, username, email, phone, settings, roles⟩
    obtain ⟨locale, newsletter, object⟩ := (settings_part _).mpr settings
    obtain ⟨all, list⟩ := (roles_part _).mpr roles
    have each items (same : _ = Datum.list items) item (member : item ∈ items) :=
      (role_part item).mpr (all items same item member)
    exact ⟨⟨entries, rfl, only⟩, username, email, phone, locale, newsletter, object,
      fun items same item member => (each items same item member).1,
      fun items same item member => (each items same item member).2.1,
      fun items same item member => (each items same item member).2.2, list⟩

theorem user_contract_accepts_iff (value : Value) :
    (userContract.check value).outcome = .ok [] ↔ IsUserPayload value := by
  by_cases container : value.isContainer = true
  · have read : userContract.source.read = .ok userSchema := read_user_schema
    rw [← user_rules_admit_iff, ← check_nothing_iff container read []]
    rfl
  · constructor
    · intro accepted
      cases value <;> first | exact absurd rfl container | cases accepted
    · intro described
      obtain ⟨entries, rfl, _⟩ := described.object
      exact absurd rfl container

/-- The contract accepts the payloads that it describes and no others, and it fails for no payload
that can be written. -/
theorem user_payload_accepted_iff (disk : Disk) (installed : IsFound disk) :
    ∃ contract, Contract.load disk "user_payload.json" none = .ok contract ∧
      ∀ value : Value, value.isContainer = true →
        ((contract.check value).outcome = .ok [] ↔ IsUserPayload value) ∧
          (¬value.HoldsLong → ∃ found, (contract.check value).outcome = .ok found) := by
  refine ⟨userContract, installed.load_contract, ?_⟩
  intro value container
  refine ⟨user_contract_accepts_iff value, ?_⟩
  intro short
  have read : userContract.source.read = .ok userSchema := read_user_schema
  exact check_succeeds container read short user_rules_decide []

/-- A payload whose phone is given as a number. -/
def signUp : Value :=
  .mapping
    [("username", .text "Wren7"), ("email", .text "wren@birds.org"), ("phone", .integer 123456),
     ("settings", .mapping [("locale", .text "fr"), ("optinNewsletter", .bool false)]),
     ("roles", .list [.mapping [("name", .text "ADMIN"), ("until", .text "2030-01-31")]])]

/-- A working directory with a directory in it that has the name of the contract. -/
def nest : Disk :=
  install ⟨["nest"], [(["nest", "user_payload.json", "old"], .file [])]⟩ ["library"]

theorem ok_true_of_decide {outcome : Except Breakdown Bool}
    (passes : (outcome.toOption == some true) = true) : outcome = .ok true := by
  cases outcome with
  | error cause => cases passes
  | ok verdict => cases verdict <;> first | rfl | cases passes

theorem nest_contract_found : IsFound nest := by
  have found : nest.lookup (Location.ofText "user_payload.json") = .directory {} := by
    rw [location_of_contract, Files.lookup_walk _ (by decide +kernel) (by decide +kernel)]
    rfl
  refine ⟨by rw [found]; rfl, ?_, library_contract _ (by simp)⟩
  rw [← Files.lookup_barred_iff, found]
  exact nofun

theorem sign_up_accepted :
    IsFound nest ∧
      ∃ contract, Contract.load nest "user_payload.json" none = .ok contract ∧
        (contract.check signUp).outcome = .ok [] ∧
        (contract.check (.list [])).outcome ≠ .ok [] := by
  obtain ⟨contract, loaded, checks⟩ := user_payload_accepted_iff nest nest_contract_found
  have described : IsUserPayload signUp := by
    refine ⟨⟨_, rfl, by decide +kernel⟩, ⟨_, rfl, by decide +kernel, by decide +kernel, ?_⟩,
      ⟨_, rfl, ?_⟩, Or.inr ⟨?_, ?_⟩,
      Or.inr ⟨⟨_, rfl⟩, Or.inr ⟨_, by decide, rfl⟩, Or.inr ⟨_, rfl⟩⟩,
      Or.inr ⟨_, rfl, by decide, by decide, ?_⟩⟩
    · exact ok_true_of_decide (by decide +kernel)
    · exact ok_true_of_decide (by decide +kernel)
    · exact (Datum.writable_iff _).mp (by decide +kernel)
    · exact ok_true_of_decide (by decide +kernel)
    · rw [List.forall_mem_singleton]
      exact ⟨⟨_, rfl, by decide +kernel⟩, ⟨_, rfl, by decide +kernel, by decide +kernel,
        ok_true_of_decide (by decide +kernel)⟩, Or.inr ⟨_, rfl, by decide +kernel⟩⟩
  refine ⟨nest_contract_found, contract, loaded, (checks signUp rfl).1.mpr described, ?_⟩
  intro nothing
  obtain ⟨entries, impossible, _⟩ := ((checks (.list []) rfl).1.mp nothing).object
  cases impossible

end DocumentRules.Bundle
