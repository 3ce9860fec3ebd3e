import DocumentRules.Check
import DocumentRules.Proofs.Card.Sections
import DocumentRules.Proofs.Text.Occurrences

/-!
The headings of a card. The lines that begin with the mark of a heading are the first lines of the
sections, and every later line of a text shown in a section that begins with that mark too. So
there is one heading for each violation, with its path, exactly when every path is a single line
and no text shown beside it holds a line feed with the mark behind it.
-/

set_option autoImplicit false

namespace DocumentRules.Card

open Text

/-! ## Lines that are headings -/

/-- What a heading of this level begins with. -/
def headingMark (level : Nat) : List Char := List.replicate level '#' ++ [' ']

/-- The lines of a text that begin with the mark of a heading. -/
def headingLines (level : Nat) (text : List Char) : List (List Char) :=
  (cutAt '\n' text).filter (headingMark level).isPrefixOf

/-- Those behind the first line. -/
def strayHeadings (level : Nat) (text : List Char) : List (List Char) :=
  (cutAt '\n' text).tail.filter (headingMark level).isPrefixOf

/-- A line feed with the mark of a heading behind it. -/
def HoldsHeading (level : Nat) (text : List Char) : Prop := '\n' :: headingMark level <:+: text

variable (level : Nat)

theorem mem_heading_mark {c : Char} (member : c ∈ headingMark level) : c = '#' ∨ c = ' ' := by
  rcases List.mem_append.mp member with sign | space
  · exact Or.inl (List.eq_of_mem_replicate sign)
  · exact Or.inr (List.mem_singleton.mp space)

theorem not_mem_heading_mark {c : Char} (noSign : c ≠ '#') (noSpace : c ≠ ' ') :
    c ∉ headingMark level := by
  intro member
  rcases mem_heading_mark level member with sign | space
  · exact noSign sign
  · exact noSpace space

theorem heading_mark_line : '\n' ∉ headingMark level :=
  not_mem_heading_mark level (by decide) (by decide)

theorem not_begins_mark {c : Char} (noSign : c ≠ '#') (noSpace : c ≠ ' ') (text : List Char) :
    ¬headingMark level <+: c :: text := by
  intro begins
  rcases List.prefix_cons_iff.mp begins with none | ⟨later, same, _⟩
  · exact List.append_ne_nil_of_right_ne_nil _ (List.cons_ne_nil _ _) none
  · exact not_mem_heading_mark level noSign noSpace (same ▸ List.mem_cons_self)

theorem stray_headings_nil_iff (text : List Char) :
    strayHeadings level text = [] ↔ ¬HoldsHeading level text := by
  rw [HoldsHeading, occurs_later_line_iff (heading_mark_line level), strayHeadings,
    List.filter_eq_nil_iff]
  simp

theorem heading_lines_nil : headingLines level [] = [] := by
  have none : ¬headingMark level <+: [] := by
    rw [List.prefix_nil]
    exact List.append_ne_nil_of_right_ne_nil _ (List.cons_ne_nil _ _)
  simp [headingLines, cutAt, none]

theorem heading_lines_joined {lines : List (List Char)} (nonempty : lines ≠ []) :
    headingLines level (joined ['\n'] lines) = lines.flatMap (headingLines level) := by
  rw [headingLines, cut_at_joined_parts '\n' nonempty, List.filter_flatMap]
  rfl

/-- A single line in front decides whether the first line is a heading, and nothing else. -/
theorem heading_lines_behind {lead : List Char} (clean : '\n' ∉ lead) (text : List Char) :
    ∃ first later, cutAt '\n' text = first :: later ∧
      headingLines level (lead ++ text) =
        [lead ++ first].filter (headingMark level).isPrefixOf ++ strayHeadings level text := by
  obtain ⟨first, later, cut, whole⟩ := cut_at_behind clean text
  refine ⟨first, later, cut, ?_⟩
  rw [headingLines, whole, strayHeadings, cut, List.tail_cons, ← List.filter_append,
    List.singleton_append]

theorem heading_lines_bullet (label : String) (line : '\n' ∉ label.toList) (content : String) :
    headingLines level (bullet label content) = strayHeadings level content.toList := by
  obtain ⟨rest, split, clean⟩ : ∃ rest, bullet label content = '-' :: rest ++ content.toList ∧
      '\n' ∉ '-' :: rest := by
    refine ⟨' ' :: '*' :: '*' :: (label.toList ++ ['*', '*', ':', ' ']), ?_, by simp [line]⟩
    rw [bullet, String.toList_append, String.toList_append, String.toList_append]
    rfl
  obtain ⟨first, _, _, whole⟩ := heading_lines_behind level clean content.toList
  have noHeading := not_begins_mark level (c := '-') (by decide) (by decide) (rest ++ first)
  rw [split, whole]
  simp [noHeading]

/-! ## The headings of a section -/

/-- What stands behind the mark of a section. -/
def shownPath (path : Value) : List Char := (if path.holds then path.display else "$").toList

theorem heading_behind_mark (path : Value) :
    heading level path = headingMark level ++ shownPath path := by
  rw [heading, headingMark, List.append_assoc]
  rfl

theorem heading_lines_heading (path : Value) :
    ∃ first later, cutAt '\n' (shownPath path) = first :: later ∧
      headingLines level (heading level path) =
        (headingMark level ++ first) :: strayHeadings level (shownPath path) := by
  obtain ⟨first, later, cut, whole⟩ :=
    heading_lines_behind level (heading_mark_line level) (shownPath path)
  refine ⟨first, later, cut, ?_⟩
  rw [heading_behind_mark, whole]
  simp

/-- The headings in a section: its own, and those that its texts bring with them. -/
def sectionHeadings (violation : Violation) : List (List Char) :=
  headingLines level (heading level violation.path) ++
    (strayHeadings level violation.message.display.toList ++
      (strayHeadings level violation.validatorName.display.toList ++
        (strayHeadings level (scalar violation.value).toList ++
          strayHeadings level (argumentText violation.arguments).toList)))

theorem section_lines_headings (violation : Violation) :
    (sectionLines level violation).flatMap (headingLines level) =
      sectionHeadings level violation := by
  have message := heading_lines_bullet level "message" (by decide)
  have validator := heading_lines_bullet level "validator" (by decide)
  have value := heading_lines_bullet level "value" (by decide)
  have arguments := heading_lines_bullet level "arguments" (by decide)
  rw [sectionLines, sectionHeadings]
  by_cases none : violation.arguments = []
  · have nothing : strayHeadings level (argumentText []).toList = [] := rfl
    simp [none, nothing, message, validator, value, heading_lines_nil]
  · simp [none, message, validator, value, arguments, heading_lines_nil]

/-- A line feed at the end brings an empty line with it, and that is no heading. -/
theorem heading_lines_closed (text : List Char) :
    headingLines level (text ++ ['\n']) = headingLines level text := by
  have whole : joined ['\n'] [text, []] = text ++ ['\n'] := by
    simp [joined]
  rw [← whole, heading_lines_joined level (List.cons_ne_nil _ _)]
  simp [heading_lines_nil]

theorem heading_lines_write (violations : List Violation) :
    headingLines level (write level violations).toList =
      violations.flatMap (sectionHeadings level) := by
  rw [write_sections]
  by_cases none : violations = []
  · rw [none]
    exact heading_lines_nil level
  · have lines : violations.flatMap (sectionLines level) ≠ [] := by
      obtain ⟨violation, rest, same⟩ := List.exists_cons_of_ne_nil none
      rw [same]
      exact List.cons_ne_nil _ _
    rw [← heading_lines_closed, ← full_text_sections level none, fullText,
      heading_lines_joined level lines, List.flatMap_assoc]
    exact congrArg (fun each => violations.flatMap each) (funext (section_lines_headings level))

/-! ## Texts that bring headings with them -/

/-- A text with a heading behind its first line. -/
def BringsHeading (value : Value) : Prop :=
  ∃ written, value = .text written ∧ HoldsHeading level written.toList

theorem holds_no_heading {text : List Char} (line : '\n' ∉ text) : ¬HoldsHeading level text :=
  not_occurs_of_not_mem line

theorem text_brings_iff (written : String) :
    BringsHeading level (.text written) ↔ HoldsHeading level written.toList := by
  constructor
  · intro brings
    obtain ⟨_, same, inside⟩ := brings
    cases same
    exact inside
  · exact fun inside => ⟨written, rfl, inside⟩

theorem brings_of_no_text {value : Value} (noText : ∀ written, value ≠ .text written) :
    ¬BringsHeading level value := by
  intro brings
  obtain ⟨written, same, _⟩ := brings
  exact noText written same

theorem display_holds_heading_iff (value : Value) :
    HoldsHeading level value.display.toList ↔ BringsHeading level value := by
  by_cases isText : ∃ written, value = .text written
  · obtain ⟨written, same⟩ := isText
    rw [same, text_brings_iff]
    rfl
  · have noText : ∀ written, value ≠ .text written := fun written same => isText ⟨written, same⟩
    have line : '\n' ∉ value.display.toList := by
      rw [Datum.display_of_no_text noText]
      exact Datum.literal_not_feed value
    exact iff_of_false (holds_no_heading level line) (brings_of_no_text level noText)

/-- The marks around a text neither make a heading nor hide one. -/
theorem scalar_holds_heading_iff (value : Value) :
    HoldsHeading level (scalar value).toList ↔ BringsHeading level value := by
  have word {content : String} (line : '\n' ∉ content.toList)
      (noText : ∀ written, value ≠ .text written) :
      HoldsHeading level content.toList ↔ BringsHeading level value :=
    iff_of_false (holds_no_heading level line) (brings_of_no_text level noText)
  cases value with
  | null => exact word (by decide) (fun written => nofun)
  | bool truth => cases truth <;> exact word (by decide) (fun written => nofun)
  | text written =>
      rw [text_brings_iff]
      by_cases empty : written = ""
      · rw [empty]
        exact iff_of_false (holds_no_heading level (by decide)) (holds_no_heading level (by decide))
      · have tick : '`' ∉ '\n' :: headingMark level := by
          rw [List.mem_cons, not_or]
          exact ⟨by decide, not_mem_heading_mark level (by decide) (by decide)⟩
        have apart : '\n' ∉ ['`'] := by decide
        have behind : '\n' :: headingMark level <:+: '`' :: (written.toList ++ ['`']) ↔
            '\n' :: headingMark level <:+: written.toList ++ ['`'] := occurs_behind_iff apart _
        rw [scalar_text empty, HoldsHeading, behind, occurs_around_iff tick, List.infix_nil]
        exact or_iff_left (List.cons_ne_nil _ _)
  | _ => exact display_holds_heading_iff level _

theorem arguments_hold_heading_iff (arguments : List Value) :
    HoldsHeading level (argumentText arguments).toList ↔
      ∃ argument ∈ arguments, BringsHeading level argument := by
  have comma : ',' ∉ '\n' :: headingMark level := by
    rw [List.mem_cons, not_or]
    exact ⟨by decide, not_mem_heading_mark level (by decide) (by decide)⟩
  rw [argumentText, String.toList_ofList, HoldsHeading, Datum.commaSpace,
    occurs_joined_iff comma (by decide)]
  simp only [← scalar_holds_heading_iff, HoldsHeading, List.mem_map, exists_exists_and_eq_and]

/-! ## One heading for each violation -/

/-- What a card shows of a violation beside its path. -/
def shownBeside (violation : Violation) : List Value :=
  violation.message :: violation.validatorName :: violation.value :: violation.arguments

/-- The path is a single line, and nothing shown beside it brings a heading. -/
structure HasOneHeading (violation : Violation) : Prop where
  path : violation.path.holds = true
  line : '\n' ∉ violation.path.display.toList
  beside : ∀ value ∈ shownBeside violation, ¬BringsHeading level value

/-- A path that does not hold is not shown as it is. -/
theorem display_not_dollar {path : Value} (nothing : path.holds = false) :
    path.display.toList ≠ ['$'] := by
  intro dollar
  by_cases isText : ∃ written, path = .text written
  · obtain ⟨written, same⟩ := isText
    have empty : written = "" := by simpa [same, Datum.holds] using nothing
    rw [same, empty] at dollar
    cases dollar
  · have noText : ∀ written, path ≠ .text written := fun written same => isText ⟨written, same⟩
    have rendered := Datum.rendered_literal path noText
    rw [← Datum.display_of_no_text noText, dollar] at rendered
    cases rendered with
    | marked _ _ mark => exact absurd mark (by decide)
    | positional _ plain =>
        rcases plain '$' List.mem_cons_self with digit | point
        · exact absurd digit (by decide)
        · exact absurd point (by decide)

theorem first_line_shown_iff {path : Value} {first : List Char} {later : List (List Char)}
    (cut : cutAt '\n' (shownPath path) = first :: later) :
    first = path.display.toList ↔ path.holds = true ∧ '\n' ∉ path.display.toList := by
  have single : '\n' ∉ first := cut_at_clean '\n' (shownPath path) first (by rw [cut]; simp)
  cases holds : path.holds with
  | false =>
      have dollar : shownPath path = ['$'] := by
        simp [shownPath, holds]
      rw [dollar, cut_at_whole (by decide), List.cons.injEq] at cut
      rw [← cut.1]
      exact iff_of_false (Ne.symm (display_not_dollar holds)) (fun both => nomatch both.1)
  | true =>
      have own : shownPath path = path.display.toList := by
        simp [shownPath, holds]
      rw [own] at cut
      constructor
      · intro same
        exact ⟨rfl, same ▸ single⟩
      · intro both
        rw [cut_at_whole both.2, List.cons.injEq] at cut
        exact cut.1.symm

theorem section_headings_iff (violation : Violation) :
    sectionHeadings level violation = [headingMark level ++ violation.path.display.toList] ↔
      HasOneHeading level violation := by
  obtain ⟨first, later, cut, own⟩ := heading_lines_heading level violation.path
  have strayed (value : Value) :
      strayHeadings level value.display.toList = [] ↔ ¬BringsHeading level value := by
    rw [stray_headings_nil_iff, display_holds_heading_iff]
  have arguments : strayHeadings level (argumentText violation.arguments).toList = [] ↔
      ∀ argument ∈ violation.arguments, ¬BringsHeading level argument := by
    rw [stray_headings_nil_iff, arguments_hold_heading_iff, not_exists]
    simp only [not_and]
  rw [sectionHeadings, own, List.cons_append, List.cons.injEq, List.append_cancel_left_eq,
    first_line_shown_iff cut, List.append_eq_nil_iff, List.append_eq_nil_iff,
    List.append_eq_nil_iff, List.append_eq_nil_iff, strayed, strayed, arguments,
    stray_headings_nil_iff level (scalar violation.value).toList, scalar_holds_heading_iff]
  constructor
  · intro parts
    obtain ⟨⟨path, line⟩, _, message, name, value, each⟩ := parts
    refine ⟨path, line, ?_⟩
    rw [shownBeside, List.forall_mem_cons, List.forall_mem_cons, List.forall_mem_cons]
    exact ⟨message, name, value, each⟩
  · intro one
    have beside := one.beside
    rw [shownBeside, List.forall_mem_cons, List.forall_mem_cons, List.forall_mem_cons] at beside
    refine ⟨⟨one.path, one.line⟩, ?_, beside⟩
    rw [stray_headings_nil_iff, shownPath, one.path]
    exact holds_no_heading level one.line

section Rows

variable {α β : Type}

theorem length_le_flat_map {each : α → List β} (some : ∀ item, each item ≠ []) (items : List α) :
    items.length ≤ (items.flatMap each).length := by
  induction items with
  | nil => exact Nat.zero_le _
  | cons item rest induction =>
      have own := List.length_pos_iff.mpr (some item)
      rw [List.flatMap_cons, List.length_append, List.length_cons]
      omega

/-- Rows that are never empty give one entry for each item only if each of them gives one. -/
theorem flat_map_eq_map_iff {each : α → List β} (some : ∀ item, each item ≠ []) (one : α → β)
    (items : List α) :
    items.flatMap each = items.map one ↔ ∀ item ∈ items, each item = [one item] := by
  induction items with
  | nil => simp
  | cons item rest induction =>
      rw [List.forall_mem_cons, List.flatMap_cons, List.map_cons, ← induction]
      constructor
      · intro same
        cases own : each item with
        | nil => exact absurd own (some item)
        | cons entry more =>
            rw [own, List.cons_append, List.cons.injEq] at same
            obtain ⟨rfl, others⟩ := same
            have counted := congrArg List.length others
            have least := length_le_flat_map some rest
            rw [List.length_append, List.length_map] at counted
            have none : more = [] := List.length_eq_zero_iff.mp (by omega)
            rw [none, List.nil_append] at others
            exact ⟨by rw [none], others⟩
      · intro parts
        rw [parts.1, parts.2]
        rfl

end Rows

/-- The headings of a card are the paths of the violations in their order exactly when each of the
violations has one heading. -/
theorem headings_are_paths_iff (violations : List Violation) :
    headingLines level (write level violations).toList =
        violations.map (fun violation => headingMark level ++ violation.path.display.toList) ↔
      ∀ violation ∈ violations, HasOneHeading level violation := by
  have some : ∀ violation, sectionHeadings level violation ≠ [] := by
    intro violation
    obtain ⟨_, _, _, whole⟩ := heading_lines_heading level violation.path
    rw [sectionHeadings, whole]
    exact List.cons_ne_nil _ _
  rw [heading_lines_write, flat_map_eq_map_iff some]
  exact forall₂_congr fun violation _ => section_headings_iff level violation

/-- A line feed in the value makes no second heading. -/
theorem blank_name_headed :
    (∀ violation ∈ [blankName], HasOneHeading standardLevel violation) ∧
      headingLines standardLevel (write standardLevel [blankName]).toList =
        ["## name".toList] := by
  have quiet (written : String) (clean : strayHeadings standardLevel written.toList = []) :
      ¬BringsHeading standardLevel (.text written) := by
    rw [text_brings_iff, ← stray_headings_nil_iff]
    exact clean
  have one : HasOneHeading standardLevel blankName := by
    refine ⟨rfl, by decide, ?_⟩
    rw [shownBeside, List.forall_mem_cons, List.forall_mem_cons, List.forall_mem_cons]
    exact ⟨quiet _ rfl, quiet _ rfl, quiet _ rfl, List.forall_mem_singleton.mpr (quiet _ rfl)⟩
  have each := List.forall_mem_singleton.mpr one
  exact ⟨each, (headings_are_paths_iff standardLevel [blankName]).mpr each⟩

/-- A note has to be a whole number. -/
def noteRules : Declaration := .mapping [("n", .mapping [("type", .text "integer")])]

def note : Value := .mapping [("n", .text "a\n## b")]

def noteViolation : Violation := .ofStep "type" "n" (.text "a\n## b") [.text "integer"]

/-- The check of the note finds one violation, and the card of that has two headings. -/
theorem note_brings_heading :
    (check note (.declared noteRules) none []).outcome = .ok [noteViolation] ∧
      headingLines standardLevel (write standardLevel [noteViolation]).toList =
        ["## n".toList, "## b`".toList] := by
  refine ⟨rfl, ?_⟩
  rw [heading_lines_write]
  decide

end DocumentRules.Card
