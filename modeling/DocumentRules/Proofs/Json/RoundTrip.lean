import DocumentRules.Proofs.Json.Numbers
import DocumentRules.Proofs.Json.Texts

/-!
Every document is read back from what is written for it, in any layout and with blanks behind
it. What is written for a datum is read wherever nothing after it could be part of a number;
this passes from the items of a list and the members of a mapping to the whole.
-/

set_option autoImplicit false

namespace DocumentRules.Json

open Datum Number Text

variable {κ : Type}

/-! ## Blanks -/

theorem skip_blanks_append {blanks : List Char} (blank : ∀ c ∈ blanks, isJsonBlank c = true)
    (rest : List Char) : skipBlanks (blanks ++ rest) = skipBlanks rest := by
  rw [skipBlanks, List.dropWhile_append_of_pos blank, skipBlanks]

theorem line_break_blank (layout : Layout) (level : Nat) :
    ∀ c ∈ layout.lineBreak level, isJsonBlank c = true := by
  obtain ⟨_ | width⟩ := layout
  · exact fun c none => absurd none List.not_mem_nil
  · intro c member
    rcases List.mem_cons.mp member with rfl | indent
    · decide
    · rw [List.eq_of_mem_replicate indent]
      decide

/-- What a written datum can begin with: no blank, no closing mark and no byte order mark. -/
def Begins (text : List Char) : Prop :=
  ∃ c ∈ text.head?, isJsonBlank c = false ∧ (c ≠ ']' ∧ c ≠ '\x7d') ∧ c ≠ Char.ofNat 65279

theorem Begins.skip_blanks {text : List Char} (begins : Begins text) : skipBlanks text = text := by
  obtain ⟨c, head, solid, _⟩ := begins
  cases text with
  | nil => cases head
  | cons own rest =>
      cases head
      rw [skipBlanks, List.dropWhile_cons, solid]
      rfl

theorem Begins.not_closed {text : List Char} (begins : Begins text) (rest : List Char) :
    text ≠ ']' :: rest ∧ text ≠ '\x7d' :: rest := by
  obtain ⟨c, head, _, ⟨noBracket, noBrace⟩, _⟩ := begins
  constructor
  · rintro rfl
    cases head
    exact noBracket rfl
  · rintro rfl
    cases head
    exact noBrace rfl

/-- What is behind the last part of a container. -/
theorem stops_line_break (layout : Layout) (level : Nat) {c : Char} (rest : List Char)
    (closing : isJsonDigit c = false ∧ c ≠ '.' ∧ c ≠ 'e' ∧ c ≠ 'E') :
    Stops (layout.lineBreak level ++ c :: rest) := by
  obtain ⟨_ | width⟩ := layout
  · exact stops_cons rest closing
  · exact stops_cons _ (by decide)

/-! ## What is written for one datum -/

/-- What is written for a datum is read as that datum. -/
structure ReadsBack (layout : Layout) (datum : Datum κ) : Prop where
  begins : ∀ level rest, Begins (layout.chars level datum ++ rest)
  reads : ∀ level fuel rest, 2 * (layout.chars level datum).length ≤ fuel → Stops rest →
    readDatum fuel (layout.chars level datum ++ rest) = .ok (datum, rest)

variable {layout : Layout} {datum : Datum κ}

/-- Something is written for a datum, so there is fuel for a step. -/
theorem ReadsBack.of_reads (begins : ∀ level rest, Begins (layout.chars level datum ++ rest))
    (reads : ∀ level fuel rest, 2 * (layout.chars level datum).length ≤ fuel + 1 → Stops rest →
      readDatum (fuel + 1) (layout.chars level datum ++ rest) = .ok (datum, rest)) :
    ReadsBack layout datum := by
  refine ⟨begins, ?_⟩
  intro level fuel rest enough stops
  have filled : 0 < (layout.chars level datum).length := by
    obtain ⟨c, head, _⟩ := begins level []
    rw [List.append_nil] at head
    exact List.length_pos_of_mem (List.mem_of_mem_head? head)
  obtain ⟨less, rfl⟩ : ∃ less, fuel = less + 1 := ⟨fuel - 1, by omega⟩
  exact reads level less rest enough stops

theorem number_begins {number : NumberText} (written : number.IsWritten) (rest : List Char) :
    Begins (number.chars ++ rest) := by
  obtain ⟨c, head, begins⟩ := number_head written rest
  refine ⟨c, head, ?_⟩
  rcases begins with rfl | digit
  · decide
  · have bounds := json_digit_bounds digit
    refine ⟨?_, ?_, ?_⟩
    · simp only [isJsonBlank, Bool.or_eq_false_iff, beq_eq_false_iff_ne]
      refine ⟨⟨⟨?_, ?_⟩, ?_⟩, ?_⟩ <;>
      · rintro rfl
        exact absurd bounds.1 (by decide)
    · constructor
      · rintro rfl
        exact absurd bounds.2 (by decide)
      · rintro rfl
        exact absurd bounds.2 (by decide)
    · rintro rfl
      exact absurd bounds.2 (by decide)

theorem number_reads_back {number : NumberText}
    (chars : ∀ level, layout.chars level datum = number.chars)
    (written : number.IsWritten) (value : number.value = .ok datum) : ReadsBack layout datum := by
  apply ReadsBack.of_reads
  · intro level rest
    rw [chars]
    exact number_begins written rest
  · intro level fuel rest _ stops
    rw [chars]
    exact read_datum_number written stops value fuel

theorem float_reads_back {value : Binary64} (kept : value.IsKept) :
    ReadsBack layout (.float value : Datum κ) := by
  cases kept with
  | nan => exact .of_reads (fun _ _ => ⟨'N', rfl, by decide⟩) (fun _ _ _ _ _ => rfl)
  | infinite negative =>
      cases negative
      · exact .of_reads (fun _ _ => ⟨'I', rfl, by decide⟩) (fun _ _ _ _ _ => rfl)
      · exact .of_reads (fun _ _ => ⟨'-', rfl, by decide⟩) (fun _ _ _ _ _ => rfl)
  | finite negative canonical bounded =>
      obtain ⟨number, written, chars, own⟩ := finite_number (κ := κ) canonical bounded
      exact number_reads_back (fun _ => chars) written own

theorem read_quoted_text (opening : Nat) (text : String) (rest : List Char) :
    readText opening ((textChars text).tail ++ rest) = .ok (text.toList, rest) := by
  change readText opening ((text.toList.flatMap escapedChar ++ ['"']) ++ rest) = _
  rw [List.append_assoc]
  exact read_text_chars opening text rest

theorem text_reads_back (text : String) : ReadsBack layout (.text text : Datum κ) := by
  apply ReadsBack.of_reads
  · exact fun _ _ => ⟨'"', rfl, by decide⟩
  · intro level fuel rest _ _
    change readDatum (fuel + 1) ('"' :: ((textChars text).tail ++ rest)) = _
    rw [readDatum, read_quoted_text]
    change Except.ok (Datum.text (String.ofList text.toList), rest) = _
    rw [String.ofList_toList]

/-! ## Containers -/

theorem enclosed_parts (layout : Layout) (level : Nat) (left right : Char)
    {parts : List (List Char)} (some : parts ≠ []) (rest : List Char) :
    layout.enclosed level left right parts ++ rest =
      left :: (layout.lineBreak (level + 1) ++
        (joined (',' :: layout.lineBreak (level + 1)) parts ++
          (layout.lineBreak level ++ right :: rest))) := by
  cases parts with
  | nil => exact absurd rfl some
  | cons part others => simp [Layout.enclosed, List.append_assoc]

theorem enclosed_length (layout : Layout) (level : Nat) (left right : Char)
    {parts : List (List Char)} (some : parts ≠ []) :
    (joined (',' :: layout.lineBreak (level + 1)) parts).length + 2 ≤
      (layout.enclosed level left right parts).length := by
  have size := congrArg List.length (enclosed_parts layout level left right some [])
  simp only [List.append_nil, List.length_append, List.length_cons] at size
  omega

theorem enclosed_head (level : Nat) (left right : Char) (parts : List (List Char))
    (rest : List Char) : left ∈ (layout.enclosed level left right parts ++ rest).head? := by
  cases parts <;> rfl

theorem joined_more (separator part next : List Char) (rest : List (List Char)) :
    joined separator (part :: next :: rest) =
      part ++ (separator ++ joined separator (next :: rest)) := List.append_assoc _ _ _

theorem joined_begins {separator part : List Char} (parts : List (List Char)) {rest : List Char}
    (begins : ∀ rest, Begins (part ++ rest)) :
    Begins (joined separator (part :: parts) ++ rest) := by
  cases parts with
  | nil => exact begins rest
  | cons next later =>
      rw [joined_more, List.append_assoc]
      exact begins _

theorem skip_to_closing (layout : Layout) (level : Nat) {c : Char} (rest : List Char)
    (solid : isJsonBlank c = false) :
    skipBlanks (layout.lineBreak level ++ c :: rest) = c :: rest := by
  rw [skip_blanks_append (line_break_blank layout level), skipBlanks, List.dropWhile_cons, solid]
  rfl

theorem skip_to_next (layout : Layout) (level : Nat) {text : List Char} (begins : Begins text) :
    skipBlanks (layout.lineBreak level ++ text) = text := by
  rw [skip_blanks_append (line_break_blank layout level), begins.skip_blanks]

section Steps

variable {fuel : Nat} {text start after more rest : List Char} {item : Datum κ}

theorem read_items_last (first : readDatum fuel text = .ok (item, after))
    (closed : skipBlanks after = ']' :: rest) :
    readItems (fuel + 1) text = .ok ([item], rest) := by
  simp only [readItems, first, closed, bind, Except.bind, pure, Except.pure]

theorem read_items_more {items : List (Datum κ)}
    (first : readDatum fuel text = .ok (item, after)) (comma : skipBlanks after = ',' :: more)
    (others : readItems fuel (skipBlanks more) = .ok (items, rest)) :
    readItems (fuel + 1) text = .ok (item :: items, rest) := by
  simp only [readItems, first, comma, others, bind, Except.bind, pure, Except.pure]

variable {key : String}

theorem read_members_last (colon : readColon start = .ok text)
    (first : readDatum fuel text = .ok (item, after)) (closed : skipBlanks after = '\x7d' :: rest) :
    readMembers (fuel + 1) (textChars key ++ start) = .ok ([(key, item)], rest) := by
  change readMembers (fuel + 1) ('"' :: ((textChars key).tail ++ start)) = _
  simp only [readMembers, read_quoted_text, colon, first, closed, bind, Except.bind, pure,
    Except.pure, String.ofList_toList]

theorem read_members_more {members : List (String × Datum κ)} (colon : readColon start = .ok text)
    (first : readDatum fuel text = .ok (item, after)) (comma : skipBlanks after = ',' :: more)
    (others : readMembers fuel (skipBlanks more) = .ok (members, rest)) :
    readMembers (fuel + 1) (textChars key ++ start) = .ok ((key, item) :: members, rest) := by
  change readMembers (fuel + 1) ('"' :: ((textChars key).tail ++ start)) = _
  simp only [readMembers, read_quoted_text, colon, first, comma, others, bind, Except.bind, pure,
    Except.pure, String.ofList_toList]

theorem read_list_parts {items : List (Datum κ)} (begins : Begins (skipBlanks text))
    (read : readItems fuel (skipBlanks text) = .ok (items, rest)) :
    readDatum (fuel + 1) ('[' :: text) = .ok (.list items, rest) := by
  rw [readDatum]
  split
  · rename_i same
    exact absurd same (begins.not_closed _).1
  · rw [read]
    rfl

theorem read_mapping_parts {members : List (String × Datum κ)} (begins : Begins (skipBlanks text))
    (read : readMembers fuel (skipBlanks text) = .ok (members, rest)) :
    readDatum (fuel + 1) ('\x7b' :: text) = .ok (collected members, rest) := by
  rw [readDatum]
  split
  · rename_i same
    exact absurd same (begins.not_closed _).2
  · rw [read]
    rfl

end Steps

theorem read_colon (layout : Layout) {text : List Char} (begins : Begins text) :
    readColon (layout.colon ++ text) = .ok text := by
  obtain ⟨_ | width⟩ := layout
  · change Except.ok (skipBlanks text) = _
    rw [begins.skip_blanks]
  · change Except.ok (skipBlanks ([' '] ++ text)) = _
    rw [skip_blanks_append (List.forall_mem_singleton.mpr rfl), begins.skip_blanks]

theorem read_items_parts {items : List (Datum κ)} (some : items ≠ [])
    (each : ∀ item ∈ items, ReadsBack layout item) (level below : Nat) (rest : List Char)
    {fuel : Nat} (enough : 2 * (joined (',' :: layout.lineBreak level)
      (layout.itemParts level items)).length + 1 ≤ fuel) :
    readItems fuel (joined (',' :: layout.lineBreak level) (layout.itemParts level items) ++
      (layout.lineBreak below ++ ']' :: rest)) = .ok (items, rest) := by
  induction items generalizing fuel with
  | nil => exact absurd rfl some
  | cons item others induction =>
      have own := each item List.mem_cons_self
      obtain ⟨less, rfl⟩ : ∃ less, fuel = less + 1 := ⟨fuel - 1, by omega⟩
      cases others with
      | nil =>
          change 2 * (layout.chars level item).length + 1 ≤ less + 1 at enough
          exact read_items_last
            (own.reads level less _ (by omega) (stops_line_break layout below rest (by decide)))
            (skip_to_closing layout below rest (by decide))
      | cons next more =>
          have later := each next (List.mem_cons_of_mem item List.mem_cons_self)
          have parts : joined (',' :: layout.lineBreak level)
              (layout.itemParts level (item :: next :: more)) =
                layout.chars level item ++ (',' :: layout.lineBreak level ++
                  joined (',' :: layout.lineBreak level)
                    (layout.itemParts level (next :: more))) := joined_more _ _ _ _
          -- The comma behind the first item pays for the step to the next one.
          rw [parts, List.length_append, List.length_append, List.length_cons] at enough
          rw [parts, List.append_assoc, List.append_assoc, List.cons_append]
          apply read_items_more (own.reads level less _ (by omega) (stops_cons _ (by decide))) rfl
          have begins (rest : List Char) : Begins (joined (',' :: layout.lineBreak level)
              (layout.itemParts level (next :: more)) ++ rest) :=
            joined_begins _ (later.begins level)
          rw [skip_to_next layout level (begins _)]
          exact induction (List.cons_ne_nil _ _)
            (fun other inside => each other (List.mem_cons_of_mem item inside)) (by omega)

theorem text_begins (key : String) (rest : List Char) : Begins (textChars key ++ rest) :=
  ⟨'"', rfl, by decide⟩

theorem read_members_parts {entries : List (String × Datum κ)} (some : entries ≠ [])
    (each : ∀ entry ∈ entries, ReadsBack layout entry.2) (level below : Nat) (rest : List Char)
    {fuel : Nat} (enough : 2 * (joined (',' :: layout.lineBreak level)
      (layout.memberParts level entries)).length + 1 ≤ fuel) :
    readMembers fuel (joined (',' :: layout.lineBreak level) (layout.memberParts level entries) ++
      (layout.lineBreak below ++ '\x7d' :: rest)) = .ok (entries, rest) := by
  induction entries generalizing fuel with
  | nil => exact absurd rfl some
  | cons entry others induction =>
      obtain ⟨key, item⟩ := entry
      have own : ReadsBack layout item := each _ List.mem_cons_self
      obtain ⟨less, rfl⟩ : ∃ less, fuel = less + 1 := ⟨fuel - 1, by omega⟩
      cases others with
      | nil =>
          change 2 * (textChars key ++ layout.colon ++ layout.chars level item).length + 1 ≤
            less + 1 at enough
          rw [List.length_append] at enough
          change readMembers (less + 1)
            (textChars key ++ layout.colon ++ layout.chars level item ++ _) = _
          rw [List.append_assoc, List.append_assoc]
          exact read_members_last (read_colon layout (own.begins level _))
            (own.reads level less _ (by omega) (stops_line_break layout below rest (by decide)))
            (skip_to_closing layout below rest (by decide))
      | cons next more =>
          have parts : joined (',' :: layout.lineBreak level)
              (layout.memberParts level ((key, item) :: next :: more)) =
                (textChars key ++ layout.colon ++ layout.chars level item) ++
                  (',' :: layout.lineBreak level ++ joined (',' :: layout.lineBreak level)
                    (layout.memberParts level (next :: more))) := joined_more _ _ _ _
          simp only [parts, List.length_append, List.length_cons] at enough
          rw [parts, List.append_assoc, List.append_assoc, List.append_assoc, List.append_assoc,
            List.cons_append]
          apply read_members_more (read_colon layout (own.begins level _))
            (own.reads level less _ (by omega) (stops_cons _ (by decide))) rfl
          have begins : Begins (joined (',' :: layout.lineBreak level)
              (layout.memberParts level (next :: more)) ++
                (layout.lineBreak below ++ '\x7d' :: rest)) := by
            refine joined_begins _ fun rest => ?_
            rw [List.append_assoc, List.append_assoc]
            exact text_begins next.1 _
          rw [skip_to_next layout level begins]
          exact induction (List.cons_ne_nil _ _)
            (fun other inside => each other (List.mem_cons_of_mem _ inside)) (by omega)

theorem list_reads_back {items : List (Datum κ)} (each : ∀ item ∈ items, ReadsBack layout item) :
    ReadsBack layout (.list items) := by
  apply ReadsBack.of_reads
  · exact fun level rest => ⟨'[', enclosed_head level _ _ _ rest, by decide⟩
  · intro level fuel rest enough _
    cases items with
    | nil => rfl
    | cons item others =>
        have own := each item List.mem_cons_self
        have some : layout.itemParts (level + 1) (item :: others) ≠ [] := List.cons_ne_nil _ _
        have size := enclosed_length layout level '[' ']' some
        have begins (rest : List Char) : Begins (joined (',' :: layout.lineBreak (level + 1))
            (layout.itemParts (level + 1) (item :: others)) ++ rest) :=
          joined_begins _ (own.begins (level + 1))
        rw [Layout.chars] at enough ⊢
        rw [enclosed_parts layout level '[' ']' some]
        apply read_list_parts
        · rw [skip_to_next layout _ (begins _)]
          exact begins _
        · rw [skip_to_next layout _ (begins _)]
          exact read_items_parts (List.cons_ne_nil _ _) each (level + 1) level rest (by omega)

theorem insert_entry_fresh {key : String} {item : Datum κ} {entries : List (String × Datum κ)}
    (fresh : key ∉ entries.map Prod.fst) :
    insertEntry key item entries = entries ++ [(key, item)] := by
  induction entries with
  | nil => rfl
  | cons entry rest induction =>
      obtain ⟨own, old⟩ := entry
      rw [List.map_cons, List.mem_cons, not_or] at fresh
      rw [insertEntry, if_neg (Ne.symm fresh.1), induction fresh.2]
      rfl

/-- Members with different keys are all kept, in their order. -/
theorem collected_distinct {members : List (String × Datum κ)}
    (distinct : (members.map Prod.fst).Nodup) : collected members = .mapping members := by
  have folded (entries : List (String × Datum κ))
      (all : ((entries ++ members).map Prod.fst).Nodup) :
      members.foldl (fun entries member => insertEntry member.1 member.2 entries) entries =
        entries ++ members := by
    -- What is carried along is that no key of the rest has been entered yet.
    clear distinct
    induction members generalizing entries with
    | nil => exact (List.append_nil entries).symm
    | cons member rest induction =>
        have fresh : member.1 ∉ entries.map Prod.fst := by
          rw [List.map_append, List.nodup_append] at all
          exact fun inside => all.2.2 _ inside _ List.mem_cons_self rfl
        rw [List.append_cons] at all ⊢
        rw [List.foldl_cons, insert_entry_fresh fresh]
        exact induction _ all
  rw [collected, folded [] distinct, List.nil_append]

theorem mapping_reads_back {entries : List (String × Datum κ)}
    (distinct : (entries.map Prod.fst).Nodup)
    (each : ∀ entry ∈ entries, ReadsBack layout entry.2) : ReadsBack layout (.mapping entries) := by
  apply ReadsBack.of_reads
  · exact fun level rest => ⟨'\x7b', enclosed_head level _ _ _ rest, by decide⟩
  · intro level fuel rest enough _
    cases entries with
    | nil => rfl
    | cons entry others =>
        obtain ⟨key, item⟩ := entry
        have some : layout.memberParts (level + 1) ((key, item) :: others) ≠ [] :=
          List.cons_ne_nil _ _
        have size := enclosed_length layout level '\x7b' '\x7d' some
        have part (rest : List Char) : textChars key ++ layout.colon ++
            layout.chars (level + 1) item ++ rest =
              textChars key ++ (layout.colon ++ (layout.chars (level + 1) item ++ rest)) := by
          rw [List.append_assoc, List.append_assoc]
        have begins (rest : List Char) : Begins (joined (',' :: layout.lineBreak (level + 1))
            (layout.memberParts (level + 1) ((key, item) :: others)) ++ rest) :=
          joined_begins _ fun rest => part rest ▸ text_begins key _
        rw [Layout.chars] at enough ⊢
        rw [enclosed_parts layout level '\x7b' '\x7d' some, ← collected_distinct distinct]
        apply read_mapping_parts
        · rw [skip_to_next layout _ (begins _)]
          exact begins _
        · rw [skip_to_next layout _ (begins _)]
          exact read_members_parts (List.cons_ne_nil _ _) each (level + 1) level rest (by omega)

/-- Every document is read back, in any layout. -/
theorem document_reads_back (layout : Layout) {datum : Datum κ} (document : datum.IsDocument) :
    ReadsBack layout datum := by
  induction document with
  | null => exact .of_reads (fun _ _ => ⟨'n', rfl, by decide⟩) (fun _ _ _ _ _ => rfl)
  | bool truth =>
      cases truth
      · exact .of_reads (fun _ _ => ⟨'f', rfl, by decide⟩) (fun _ _ _ _ _ => rfl)
      · exact .of_reads (fun _ _ => ⟨'t', rfl, by decide⟩) (fun _ _ _ _ _ => rfl)
  | integer short =>
      exact number_reads_back (fun _ => (integer_number_chars _).symm) (integer_number_written _)
        (integer_number_value short)
  | float kept => exact float_reads_back kept
  | text value => exact text_reads_back value
  | list each induction => exact list_reads_back induction
  | mapping distinct each induction => exact mapping_reads_back distinct induction

theorem blank_stops {blanks : List Char} (blank : ∀ c ∈ blanks, isJsonBlank c = true) :
    Stops blanks := by
  cases blanks with
  | nil => exact stops_nil
  | cons c rest =>
      have own := blank c List.mem_cons_self
      simp only [isJsonBlank, Bool.or_eq_true, beq_iff_eq] at own
      apply stops_cons
      rcases own with ((rfl | rfl) | rfl) | rfl <;> decide

theorem read_whole_chars (layout : Layout) {datum : Datum κ} (document : datum.IsDocument)
    {blanks : List Char} (blank : ∀ c ∈ blanks, isJsonBlank c = true) :
    readWhole (layout.chars 0 datum ++ blanks) = .ok datum := by
  obtain ⟨begins, reads⟩ := document_reads_back layout document
  have noMark : ¬((layout.chars 0 datum ++ blanks).head? == some (Char.ofNat 65279)) = true := by
    obtain ⟨c, head, _, _, other⟩ := begins 0 blanks
    rw [Option.mem_def.mp head, beq_iff_eq]
    exact fun same => other (Option.some.inj same)
  have own : readDatum (2 * (layout.chars 0 datum ++ blanks).length + 2)
      (layout.chars 0 datum ++ blanks) = .ok (datum, blanks) :=
    reads 0 _ blanks (by rw [List.length_append]; omega) (blank_stops blank)
  have nothing : skipBlanks blanks = [] := by
    rw [← List.append_nil blanks, skip_blanks_append blank]
    rfl
  rw [readWhole, if_neg noMark, (begins 0 blanks).skip_blanks, own]
  simp only [nothing, bind, Except.bind, pure, Except.pure]

/-- A document that is written is read back, in any layout and with any blanks behind it. -/
theorem read_write (layout : Layout) {datum : Datum κ} (document : datum.IsDocument)
    {blanks : String} (blank : ∀ c ∈ blanks.toList, isJsonBlank c = true) :
    read (write layout datum ++ blanks) = .ok datum := by
  have chars : (write layout datum ++ blanks).toList = layout.chars 0 datum ++ blanks.toList := by
    rw [write, String.toList_append, String.toList_ofList]
  rw [read, chars, read_whole_chars layout document blank]
  rfl

end DocumentRules.Json
