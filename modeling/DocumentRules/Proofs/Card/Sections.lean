import DocumentRules.Card
import DocumentRules.Proofs.Value.Literals

/-!
The sections of a card. Every section ends in a character that is no blank, because values and
arguments are written so; what is dropped at the end of a card is the line feed behind its last
section. A card is its sections with one empty line between neighbours, so the card of two lists is
made of their cards.
-/

set_option autoImplicit false

namespace DocumentRules.Card

open Text

/-! ## How lines end -/

theorem scalar_text {written : String} (nonempty : written ≠ "") :
    (scalar (.text written)).toList = '`' :: (written.toList ++ ['`']) := by
  rw [scalar, if_neg nonempty, String.toList_append, String.toList_append]
  rfl

theorem scalar_ends (value : Value) : EndsFirmly (scalar value).toList := by
  have literal : EndsFirmly value.literal.toList := by
    rw [Datum.literal, String.toList_ofList]
    exact Datum.literal_ends value
  cases value with
  | null => exact EndsFirmly.of_last rfl "nul".toList
  | bool truth =>
      cases truth with
      | true => exact EndsFirmly.of_last rfl "tru".toList
      | false => exact EndsFirmly.of_last rfl "fals".toList
  | text written =>
      by_cases empty : written = ""
      · rw [empty]
        exact EndsFirmly.of_last rfl "`\"\"".toList
      · rw [scalar_text empty, ← List.cons_append]
        exact EndsFirmly.of_last rfl _
  | _ => exact literal

theorem argument_text_ends {arguments : List Value} (nonempty : arguments ≠ []) :
    EndsFirmly (argumentText arguments).toList := by
  rw [argumentText, String.toList_ofList]
  apply EndsFirmly.joined_parts
  · exact fun none => nonempty (List.map_eq_nil_iff.mp none)
  · rw [List.forall_mem_map]
    exact fun argument _ => scalar_ends argument

theorem bullet_ends (label : String) {content : String} (firm : EndsFirmly content.toList) :
    EndsFirmly (bullet label content) := by
  rw [bullet, String.toList_append]
  exact firm.behind _

/-! ## Sections -/

/-- The lines of a section without the empty line behind it. -/
def sectionBody (level : Nat) (violation : Violation) : List (List Char) :=
  [heading level violation.path,
   bullet "message" violation.message.display,
   bullet "validator" violation.validatorName.display,
   bullet "value" (scalar violation.value)] ++
  (if violation.arguments.isEmpty then []
    else [bullet "arguments" (argumentText violation.arguments)])

def sectionText (level : Nat) (violation : Violation) : List Char :=
  joined ['\n'] (sectionBody level violation)

theorem section_lines_body (level : Nat) (violation : Violation) :
    sectionLines level violation = sectionBody level violation ++ [[]] := rfl

theorem section_body_nonempty (level : Nat) (violation : Violation) :
    sectionBody level violation ≠ [] := List.cons_ne_nil _ _

/-- The last line of a section is that of the arguments or, without any, that of the value. -/
theorem section_text_ends (level : Nat) (violation : Violation) :
    EndsFirmly (sectionText level violation) := by
  rw [sectionText, sectionBody]
  by_cases none : violation.arguments = []
  · rw [none, List.isEmpty_nil, if_pos rfl, List.append_nil]
    exact EndsFirmly.joined_last (bullet_ends "value" (scalar_ends violation.value)) _
      [_, _, _]
  · rw [if_neg (mt List.isEmpty_iff.mp none)]
    exact EndsFirmly.joined_last (bullet_ends "arguments" (argument_text_ends none)) _ _

theorem section_lines_joined (level : Nat) (violation : Violation) :
    joined ['\n'] (sectionLines level violation) = sectionText level violation ++ ['\n'] := by
  rw [section_lines_body, joined_append _ (section_body_nonempty level violation)
    (List.cons_ne_nil [] []), sectionText, joined, List.append_nil]

/-! ## Cards -/

/-- The text of a card before the blanks at its end are dropped. -/
def fullText (level : Nat) (violations : List Violation) : List Char :=
  joined ['\n'] (violations.flatMap (sectionLines level))

/-- The sections with an empty line between neighbours. -/
def sections (level : Nat) (violations : List Violation) : List Char :=
  joined ['\n', '\n'] (violations.map (sectionText level))

theorem full_text_sections (level : Nat) {violations : List Violation}
    (nonempty : violations ≠ []) :
    fullText level violations = sections level violations ++ ['\n'] := by
  induction violations with
  | nil => exact absurd rfl nonempty
  | cons violation rest induction =>
      cases rest with
      | nil =>
          rw [fullText, List.flatMap_singleton, section_lines_joined]
          rfl
      | cons next later =>
          have own : sectionLines level violation ≠ [] := List.cons_ne_nil _ _
          have others : (next :: later).flatMap (sectionLines level) ≠ [] := List.cons_ne_nil _ _
          have inner := induction (List.cons_ne_nil next later)
          rw [fullText] at inner
          rw [fullText, List.flatMap_cons, joined_append _ own others, section_lines_joined, inner]
          simp [sections, joined]

theorem sections_end (level : Nat) {violations : List Violation} (nonempty : violations ≠ []) :
    EndsFirmly (sections level violations) := by
  apply EndsFirmly.joined_parts
  · exact fun none => nonempty (List.map_eq_nil_iff.mp none)
  · rw [List.forall_mem_map]
    exact fun violation _ => section_text_ends level violation

/-- A card is its sections. Only the line feed behind the last of them is dropped. -/
theorem write_sections (level : Nat) (violations : List Violation) :
    (write level violations).toList = sections level violations := by
  rw [write, String.toList_ofList, ← fullText]
  by_cases none : violations = []
  · rw [none]
    rfl
  · rw [full_text_sections level none]
    apply (sections_end level none).drop_blanks
    exact List.forall_mem_singleton.mpr rfl

/-- The card of two lists of violations is the two cards with an empty line between them. What is
dropped at the end of a card is the one line feed behind its last section. -/
theorem cards_concatenate (level : Nat) {first second : List Violation} (someFirst : first ≠ [])
    (someSecond : second ≠ []) :
    write level (first ++ second) = write level first ++ "\n\n" ++ write level second ∧
      fullText level first = (write level first).toList ++ ['\n'] := by
  constructor
  · apply String.toList_injective
    have firstSections : first.map (sectionText level) ≠ [] :=
      fun none => someFirst (List.map_eq_nil_iff.mp none)
    have secondSections : second.map (sectionText level) ≠ [] :=
      fun none => someSecond (List.map_eq_nil_iff.mp none)
    rw [String.toList_append, String.toList_append, write_sections, write_sections,
      write_sections, sections, List.map_append, joined_append _ firstSections secondSections]
    rfl
  · rw [write_sections, full_text_sections level someFirst]

/-- A text of blanks that was tested against a text of blanks. -/
def blankName : Violation := .ofStep "equals" "name" (.text " \n") [.text "\t"]

def emptyRoles : Violation := .ofStep "size" "roles" (.list []) [.integer 1, .integer 9999]

theorem blank_name_card_continued :
    [blankName] ≠ [] ∧ [emptyRoles] ≠ [] ∧
      write standardLevel [blankName, emptyRoles] =
        write standardLevel [blankName] ++ "\n\n" ++ write standardLevel [emptyRoles] ∧
      fullText standardLevel [blankName] = (write standardLevel [blankName]).toList ++ ['\n'] := by
  have someName : [blankName] ≠ [] := List.cons_ne_nil _ _
  have someRoles : [emptyRoles] ≠ [] := List.cons_ne_nil _ _
  obtain ⟨whole, stripped⟩ := cards_concatenate standardLevel someName someRoles
  exact ⟨someName, someRoles, whole, stripped⟩

end DocumentRules.Card
