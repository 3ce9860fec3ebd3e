import DocumentRules.Format.Calendar
import DocumentRules.Proofs.Format.Numerals
import DocumentRules.Proofs.Text.Spans
import Mathlib.Tactic.IntervalCases

/-!
Which texts are dates and moments. A date is a year of four digits, a month and a day of two
between hyphens, and names a day of the calendar; a moment is a date, the letter T, a time of
the day, perhaps a fraction of a second, and a zone. The reader takes exactly these, and beside
them the moments whose zone counts sixty minutes or more behind its hours, as long as the zone
is less than a day away.
-/

set_option autoImplicit false

namespace DocumentRules.Format

open Number Text

/-! ## The calendar -/

/-- The lengths of the months in a year that is not a leap year. -/
def commonMonths : List Nat := [31, 28, 31, 30, 31, 30, 31, 31, 30, 31, 30, 31]

/-- Every fourth year, but of the full centuries only every fourth. -/
def IsLeap (year : Nat) : Prop := 4 ∣ year ∧ (100 ∣ year → 400 ∣ year)

/-- A day of the proleptic Gregorian calendar; the years are counted from one. -/
structure IsCalendarDay (year month day : Nat) : Prop where
  counted : 1 ≤ year
  named : 1 ≤ month ∧ month ≤ 12
  begun : 1 ≤ day
  ended : day ≤ commonMonths[month - 1]?.getD 0 ∨ (month = 2 ∧ day = 29 ∧ IsLeap year)

theorem is_leap_iff (year : Nat) : isLeapYear year = true ↔ IsLeap year := by
  simp only [isLeapYear, IsLeap, Bool.and_eq_true, Bool.or_eq_true, beq_iff_eq, bne_iff_ne, ne_eq]
  omega

/-- February alone has a day more in a leap year. -/
theorem days_in_iff {year month day : Nat} (low : 1 ≤ month) (high : month ≤ 12) :
    day ≤ daysIn year month ↔
      day ≤ commonMonths[month - 1]?.getD 0 ∨ (month = 2 ∧ day = 29 ∧ IsLeap year) := by
  have leap := is_leap_iff year
  interval_cases month
  case «2» =>
    by_cases long : IsLeap year
    · have yes : isLeapYear year = true := leap.mpr long
      simp [daysIn, commonMonths, yes, long]
      omega
    · have no : isLeapYear year = false := by simpa using mt leap.mp long
      simp [daysIn, commonMonths, no, long]
  all_goals simp [daysIn, commonMonths]

theorem is_day_iff (year month day : Nat) :
    isDay year month day = true ↔ IsCalendarDay year month day := by
  simp only [isDay, Bool.and_eq_true, decide_eq_true_eq]
  constructor
  · intro bounds
    have low := bounds.1.1.1.2
    have high := bounds.1.1.2
    exact ⟨bounds.1.1.1.1, ⟨low, high⟩, bounds.1.2, (days_in_iff low high).mp bounds.2⟩
  · intro real
    have within := (days_in_iff real.named.1 real.named.2).mpr real.ended
    exact ⟨⟨⟨⟨real.counted, real.named.1⟩, real.named.2⟩, real.begun⟩, within⟩

/-! ## Numbers of a fixed length -/

/-- So many Latin digits. -/
structure IsNumber (count : Nat) (digits : List Char) : Prop where
  length : digits.length = count
  decimal : ∀ c ∈ digits, c.isDigit = true

def numberOf (digits : List Char) : Nat := Nat.ofDigitChars 10 digits 0

theorem is_number_cons (count : Nat) (c : Char) (digits : List Char) :
    IsNumber (count + 1) (c :: digits) ↔ c.isDigit = true ∧ IsNumber count digits := by
  constructor
  · intro number
    have length := number.length
    rw [List.length_cons] at length
    refine ⟨number.decimal c List.mem_cons_self, by omega, ?_⟩
    intro d member
    exact number.decimal d (List.mem_cons_of_mem c member)
  · intro parts
    refine ⟨by rw [List.length_cons, parts.2.length], ?_⟩
    exact List.forall_mem_cons.mpr ⟨parts.1, parts.2.decimal⟩

theorem read_number_cons (count value : Nat) (c : Char) (rest : List Char) :
    readNumber (count + 1) value (c :: rest) =
      if c.isDigit then readNumber count (value * 10 + (c.toNat - 48)) rest else none := by
  rw [readNumber, latinDigit?]
  by_cases digit : c.isDigit = true
  · rw [if_pos ((latin_digit_iff c).mpr digit), if_pos digit]
  · rw [if_neg (mt (latin_digit_iff c).mp digit), if_neg digit]

/-- A number is read from exactly so many digits, with the value read so far in front. -/
theorem read_number_iff (count value read : Nat) (text rest : List Char) :
    readNumber count value text = some (read, rest) ↔
      ∃ digits, IsNumber count digits ∧ text = digits ++ rest ∧
        read = Nat.ofDigitChars 10 digits value := by
  induction count generalizing value text with
  | zero =>
      constructor
      · intro ran
        rw [readNumber, Option.some.injEq, Prod.mk.injEq] at ran
        exact ⟨[], ⟨rfl, by simp⟩, ran.2, ran.1.symm⟩
      · intro spelled
        obtain ⟨digits, number, split, total⟩ := spelled
        have none : digits = [] := List.length_eq_zero_iff.mp number.length
        simp [readNumber, split, total, none]
  | succ count induction =>
      constructor
      · intro ran
        cases text with
        | nil => cases ran
        | cons c later =>
            by_cases digit : c.isDigit = true
            · rw [read_number_cons, if_pos digit, induction] at ran
              obtain ⟨digits, number, split, total⟩ := ran
              refine ⟨c :: digits, (is_number_cons count c digits).mpr ⟨digit, number⟩, ?_, ?_⟩
              · rw [split, List.cons_append]
              · rw [total, Nat.ofDigitChars_cons, Nat.mul_comm value 10]
                rfl
            · rw [read_number_cons, if_neg digit] at ran
              cases ran
      · intro spelled
        obtain ⟨digits, number, split, total⟩ := spelled
        cases digits with
        | nil => cases number.length
        | cons c digits =>
            have parts := (is_number_cons count c digits).mp number
            rw [split, List.cons_append, read_number_cons, if_pos parts.1, induction]
            refine ⟨digits, parts.2, rfl, ?_⟩
            rw [total, Nat.ofDigitChars_cons, Nat.mul_comm value 10]
            rfl

theorem read_mark_iff (mark : Char) (text rest : List Char) :
    readMark mark text = some rest ↔ text = mark :: rest := by
  cases text with
  | nil => simp [readMark]
  | cons c later => by_cases same : c = mark <;> simp [readMark, same]

/-! ## Dates and times -/

/-- Three numbers with marks between them; all but the first have two digits. -/
inductive IsTriple (count : Nat) (mark : Char) (admits : Nat → Nat → Nat → Prop) :
    List Char → Prop
  | spelled (first second third : List Char) (firstDigits : IsNumber count first)
      (secondDigits : IsNumber 2 second) (thirdDigits : IsNumber 2 third)
      (admitted : admits (numberOf first) (numberOf second) (numberOf third)) :
      IsTriple count mark admits (first ++ mark :: (second ++ mark :: third))

/-- A year, a month and a day that the calendar has. -/
def IsDate : List Char → Prop := IsTriple 4 '-' IsCalendarDay

/-- An hour, a minute and a second. -/
def IsTime : List Char → Prop :=
  IsTriple 2 ':' fun hour minute second => hour ≤ 23 ∧ minute ≤ 59 ∧ second ≤ 59

/-- What follows three numbers that pass a test. -/
def readTriple (count : Nat) (mark : Char) (test : Nat → Nat → Nat → Bool) (text : List Char) :
    Option (List Char) := do
  let (first, text) ← readNumber count 0 text
  let text ← readMark mark text
  let (second, text) ← readNumber 2 0 text
  let text ← readMark mark text
  let (third, text) ← readNumber 2 0 text
  if test first second third then some text else none

theorem read_triple_iff (count : Nat) (mark : Char) (test : Nat → Nat → Nat → Bool)
    (text rest : List Char) :
    readTriple count mark test text = some rest ↔
      ∃ triple,
        IsTriple count mark (fun first second third => test first second third = true) triple ∧
          text = triple ++ rest := by
  simp only [readTriple, Option.bind_eq_bind, Option.bind_eq_some_iff, Prod.exists,
    read_number_iff, read_mark_iff, Option.ite_none_right_eq_some, Option.some.injEq]
  constructor
  · rintro ⟨_, _, ⟨first, firstDigits, rfl, rfl⟩, _, rfl, _, _, ⟨second, secondDigits, rfl, rfl⟩,
      _, rfl, _, _, ⟨third, thirdDigits, rfl, rfl⟩, passed, rfl⟩
    refine ⟨_, .spelled first second third firstDigits secondDigits thirdDigits passed, ?_⟩
    simp
  · rintro ⟨triple, ⟨first, second, third, firstDigits, secondDigits, thirdDigits, admitted⟩, rfl⟩
    refine ⟨_, _, ⟨first, firstDigits, ?_, rfl⟩, _, rfl, _, _, ⟨second, secondDigits, rfl, rfl⟩,
      _, rfl, _, _, ⟨third, thirdDigits, rfl, rfl⟩, admitted, rfl⟩
    simp

theorem after_date_iff (text rest : List Char) :
    afterDate? text = some rest ↔ ∃ date, IsDate date ∧ text = date ++ rest := by
  have reading : afterDate? text = readTriple 4 '-' isDay text := rfl
  rw [reading, read_triple_iff]
  simp only [is_day_iff, IsDate]

theorem after_time_iff (text rest : List Char) :
    afterTime? text = some rest ↔ ∃ time, IsTime time ∧ text = time ++ rest := by
  have reading : afterTime? text = readTriple 2 ':'
    (fun hour minute second => hour ≤ 23 && minute ≤ 59 && second ≤ 59) text := rfl
  rw [reading, read_triple_iff]
  simp only [IsTime, Bool.and_eq_true, decide_eq_true_eq, and_assoc]

/-! ## Fractions and zones -/

/-- Nothing, or a point and one to six digits. -/
inductive IsSecondFraction : List Char → Prop
  | missing : IsSecondFraction []
  | given (digits : List Char) (decimal : ∀ c ∈ digits, c.isDigit = true)
      (some : 1 ≤ digits.length) (few : digits.length ≤ 6) : IsSecondFraction ('.' :: digits)

/-- A sign, and a number of hours and minutes that are admitted. -/
inductive IsOffset (admits : Nat → Nat → Prop) : List Char → Prop
  | spelled (sign : Char) (hours minutes : List Char) (signed : sign = '+' ∨ sign = '-')
      (hourDigits : IsNumber 2 hours) (minuteDigits : IsNumber 2 minutes)
      (admitted : admits (numberOf hours) (numberOf minutes)) :
      IsOffset admits (sign :: (hours ++ ':' :: minutes))

/-- The letter Z, or hours and minutes of a day. -/
def IsZone (text : List Char) : Prop :=
  text = ['Z'] ∨ IsOffset (fun hours minutes => hours ≤ 23 ∧ minutes ≤ 59) text

/-- Sixty minutes or more behind the hours, and less than a day in all. -/
def IsOverlongOffset : List Char → Prop :=
  IsOffset fun hours minutes => 60 ≤ minutes ∧ hours * 60 + minutes < 1440

/-- A date, the letter T, a time, a fraction and a zone. -/
inductive IsMoment (zone : List Char → Prop) : List Char → Prop
  | spelled (date time fraction behind : List Char) (dated : IsDate date) (timed : IsTime time)
      (divided : IsSecondFraction fraction) (located : zone behind) :
      IsMoment zone (date ++ 'T' :: (time ++ (fraction ++ behind)))

/-- A text with which neither digits nor a fraction go on. -/
def Stops (rest : List Char) : Prop := ∀ c, rest.head? = some c → isLatinDigit c = false ∧ c ≠ '.'

theorem take_latin_digits {digits rest : List Char} (decimal : ∀ c ∈ digits, c.isDigit = true)
    (stops : Stops rest) : (digits ++ rest).takeWhile isLatinDigit = digits := by
  have latin : ∀ c ∈ digits, isLatinDigit c = true := by
    intro c member
    exact (latin_digit_iff c).mpr (decimal c member)
  apply take_span latin
  intro c head
  exact (stops c head).1

theorem after_fraction_of {fraction rest : List Char} (divided : IsSecondFraction fraction)
    (stops : Stops rest) : afterFraction? (fraction ++ rest) = some rest := by
  cases divided with
  | missing =>
      cases rest with
      | nil => rfl
      | cons c later =>
          have noPoint := (stops c rfl).2
          simp [afterFraction?, noPoint]
  | given digits decimal some few =>
      have filled : digits ≠ [] := List.length_pos_iff.mp some
      have bounded : ¬6 < digits.length := by omega
      simp [afterFraction?, take_latin_digits decimal stops, filled, bounded]

theorem of_after_fraction {text rest : List Char} (ran : afterFraction? text = some rest) :
    ∃ fraction, IsSecondFraction fraction ∧ text = fraction ++ rest := by
  rw [afterFraction?.eq_def] at ran
  split at ran
  · rename_i later
    simp only [Option.ite_none_left_eq_some, Option.some.injEq, Bool.or_eq_true, not_or,
      List.isEmpty_iff, decide_eq_true_eq, not_lt] at ran
    have decimal : ∀ c ∈ later.takeWhile isLatinDigit, c.isDigit = true := by
      intro c member
      exact (latin_digit_iff c).mp (List.all_eq_true.mp List.all_takeWhile c member)
    have some := List.length_pos_iff.mpr ran.1.1
    have split := List.prefix_iff_eq_append.mp (List.takeWhile_prefix (l := later) isLatinDigit)
    refine ⟨_, .given _ decimal some ran.1.2, ?_⟩
    rw [List.cons_append, ← ran.2, split]
  · rw [Option.some.injEq] at ran
    exact ⟨[], .missing, ran⟩

theorem offset_stops {admits : Nat → Nat → Prop} {text : List Char}
    (offset : IsOffset admits text) : Stops text := by
  cases offset with
  | spelled sign hours minutes signed _ _ _ =>
      intro c head
      simp only [List.head?_cons, Option.some.injEq] at head
      rw [← head]
      rcases signed with plus | minus
      · rw [plus]
        decide
      · rw [minus]
        decide

theorem zone_stops {text : List Char} (zone : IsZone text) : Stops text := by
  rcases zone with greenwich | offset
  · intro c head
    rw [greenwich] at head
    simp only [List.head?_cons, Option.some.injEq] at head
    rw [← head]
    decide
  · exact offset_stops offset

/-- The minutes of an offset, and what follows it. -/
def readOffset (text : List Char) : Option (Nat × List Char) := do
  let (hours, text) ← readNumber 2 0 text
  let text ← readMark ':' text
  let (minutes, text) ← readNumber 2 0 text
  return (hours * 60 + minutes, text)

theorem read_offset_iff (text rest : List Char) (distance : Nat) :
    readOffset text = some (distance, rest) ↔
      ∃ hours minutes, IsNumber 2 hours ∧ IsNumber 2 minutes ∧
        text = hours ++ ':' :: (minutes ++ rest) ∧
        numberOf hours * 60 + numberOf minutes = distance := by
  simp only [readOffset, Option.bind_eq_bind, Option.bind_eq_some_iff, Prod.exists,
    read_number_iff, read_mark_iff, Option.pure_def, Option.some.injEq, Prod.mk.injEq]
  constructor
  · rintro ⟨_, _, ⟨hours, hourDigits, rfl, rfl⟩, _, rfl, _, _, ⟨minutes, minuteDigits, rfl, rfl⟩,
      total, rfl⟩
    exact ⟨hours, minutes, hourDigits, minuteDigits, rfl, total⟩
  · rintro ⟨hours, minutes, hourDigits, minuteDigits, rfl, total⟩
    exact ⟨_, _, ⟨hours, hourDigits, rfl, rfl⟩, _, rfl, _, _, ⟨minutes, minuteDigits, rfl, rfl⟩,
      total, rfl⟩

theorem zone_distance_iff (text : List Char) :
    isZoneDistance text = true ↔ ∃ distance, readOffset text = some (distance, []) ∧
      distance < 1440 := by
  rw [isZoneDistance]
  split
  · rename_i distance ran
    change readOffset text = some (distance, []) at ran
    simp [ran]
  · rename_i other
    change ∀ distance, readOffset text = some (distance, []) → False at other
    simp only [Bool.false_eq_true, false_iff]
    rintro ⟨distance, ran, _⟩
    exact other distance ran

/-- An offset is read when it is less than a day, whatever its minutes are. -/
theorem signed_distance_iff (text : List Char) :
    (∃ sign rest, text = sign :: rest ∧ (sign = '+' ∨ sign = '-') ∧ isZoneDistance rest = true) ↔
      IsOffset (fun hours minutes => hours * 60 + minutes < 1440) text := by
  simp only [zone_distance_iff, read_offset_iff, List.append_nil]
  constructor
  · rintro ⟨sign, _, rfl, signed, _, ⟨hours, minutes, hourDigits, minuteDigits, rfl, rfl⟩, near⟩
    exact .spelled sign hours minutes signed hourDigits minuteDigits near
  · rintro ⟨sign, hours, minutes, signed, hourDigits, minuteDigits, near⟩
    exact ⟨sign, _, rfl, signed, _, ⟨hours, minutes, hourDigits, minuteDigits, rfl, rfl⟩, near⟩

theorem is_zone_iff (text : List Char) :
    isZone text = true ↔ IsZone text ∨ IsOverlongOffset text := by
  have reading : isZone text = true ↔
      text = ['Z'] ∨ IsOffset (fun hours minutes => hours * 60 + minutes < 1440) text := by
    rw [← signed_distance_iff]
    unfold isZone
    split
    · simp
    · simp
    · simp
    · rename_i notGreenwich notPlus notMinus
      simp only [Bool.false_eq_true, false_iff]
      rintro (same | ⟨sign, rest, same, rfl | rfl, _⟩)
      · exact notGreenwich same
      · exact notPlus rest same
      · exact notMinus rest same
  rw [reading, IsZone, IsOverlongOffset, or_assoc]
  apply or_congr_right
  constructor
  · rintro ⟨sign, hours, minutes, signed, hourDigits, minuteDigits, near⟩
    by_cases proper : numberOf minutes ≤ 59
    · exact Or.inl (.spelled sign hours minutes signed hourDigits minuteDigits ⟨by omega, proper⟩)
    · exact Or.inr (.spelled sign hours minutes signed hourDigits minuteDigits ⟨by omega, near⟩)
  · intro offset
    rcases offset with offset | offset
    all_goals
      obtain ⟨sign, hours, minutes, signed, hourDigits, minuteDigits, admitted⟩ := offset
      exact .spelled sign hours minutes signed hourDigits minuteDigits (by omega)

theorem overlong_not_zone {text : List Char} (overlong : IsOverlongOffset text) : ¬IsZone text := by
  intro zone
  cases overlong with
  | spelled sign hours minutes signed hourDigits minuteDigits admitted =>
      rcases zone with greenwich | offset
      · rw [(List.cons.inj greenwich).1] at signed
        exact absurd signed (by decide)
      · generalize same : sign :: (hours ++ ':' :: minutes) = text at offset
        obtain ⟨other, otherHours, otherMinutes, _, otherHourDigits, _, proper⟩ := offset
        have parts := (List.cons.inj same).2
        have equal : hours.length = otherHours.length := by
          rw [hourDigits.length, otherHourDigits.length]
        have behind := (List.append_inj parts equal).2
        rw [(List.cons.inj behind).2] at admitted
        omega

/-! ## Moments -/

/-- What stands in the place of the zone. -/
def readZone (text : List Char) : Option (List Char) := do
  let text ← afterDate? text
  let text ← readMark 'T' text
  let text ← afterTime? text
  afterFraction? text

theorem of_read_zone {text behind : List Char} (ran : readZone text = some behind) :
    IsMoment (fun rest => rest = behind) text := by
  simp only [readZone, Option.bind_eq_bind, Option.bind_eq_some_iff, after_date_iff,
    read_mark_iff, after_time_iff] at ran
  obtain ⟨_, ⟨date, dated, rfl⟩, _, rfl, _, ⟨time, timed, rfl⟩, ran⟩ := ran
  obtain ⟨fraction, divided, rfl⟩ := of_after_fraction ran
  exact .spelled date time fraction behind dated timed divided rfl

/-- A moment is read up to its zone. -/
theorem IsMoment.read {zone : List Char → Prop} (stops : ∀ behind, zone behind → Stops behind)
    {text : List Char} (moment : IsMoment zone text) :
    ∃ behind, readZone text = some behind ∧ zone behind := by
  obtain ⟨date, time, fraction, behind, dated, timed, divided, located⟩ := moment
  refine ⟨behind, ?_, located⟩
  simp only [readZone, Option.bind_eq_bind, Option.bind_eq_some_iff, after_date_iff,
    read_mark_iff, after_time_iff]
  exact ⟨_, ⟨date, dated, rfl⟩, _, rfl, _, ⟨time, timed, rfl⟩,
    after_fraction_of divided (stops behind located)⟩

theorem IsMoment.mono {zone other : List Char → Prop}
    (weaker : ∀ behind, zone behind → other behind) {text : List Char}
    (moment : IsMoment zone text) : IsMoment other text := by
  obtain ⟨date, time, fraction, behind, dated, timed, divided, located⟩ := moment
  exact .spelled date time fraction behind dated timed divided (weaker behind located)

theorem overlong_stops (text : List Char) (overlong : IsOverlongOffset text) : Stops text :=
  offset_stops overlong

theorem is_moment_iff (text : List Char) :
    isMoment text = true ↔ IsMoment IsZone text ∨ IsMoment IsOverlongOffset text := by
  have reading : isMoment text = true ↔
      ∃ behind, readZone text = some behind ∧ isZone behind = true := by
    rw [isMoment]
    split
    · rename_i behind ran
      change readZone text = some behind at ran
      simp [ran]
    · rename_i ran
      change readZone text = none at ran
      simp [ran]
  rw [reading]
  constructor
  · rintro ⟨behind, ran, located⟩
    have moment := of_read_zone ran
    rcases (is_zone_iff behind).mp located with zone | overlong
    · exact Or.inl (moment.mono fun rest same => same ▸ zone)
    · exact Or.inr (moment.mono fun rest same => same ▸ overlong)
  · rintro (moment | moment)
    · obtain ⟨behind, ran, zone⟩ := moment.read fun behind zone => zone_stops zone
      exact ⟨behind, ran, (is_zone_iff behind).mpr (Or.inl zone)⟩
    · obtain ⟨behind, ran, overlong⟩ := moment.read overlong_stops
      exact ⟨behind, ran, (is_zone_iff behind).mpr (Or.inr overlong)⟩

/-- A moment with an overlong offset is neither a date nor a moment with a proper zone. -/
theorem overlong_moment_excluded {text : List Char} (overlong : IsMoment IsOverlongOffset text) :
    ¬IsDate text ∧ ¬IsMoment IsZone text := by
  constructor
  · intro date
    have alone := (after_date_iff text []).mpr ⟨text, date, by simp⟩
    obtain ⟨behind, ran, _⟩ := overlong.read overlong_stops
    rw [readZone, alone] at ran
    cases ran
  · intro proper
    obtain ⟨behind, ran, late⟩ := overlong.read overlong_stops
    obtain ⟨other, again, zone⟩ := proper.read fun behind zone => zone_stops zone
    have same : behind = other := Option.some.inj (ran.symm.trans again)
    exact overlong_not_zone late (same ▸ zone)

/-- A text is taken for a date or a moment when it is one, or a moment with an overlong offset,
which is none. -/
theorem dates_and_moments_recognised (written : String) :
    (isDateOrMoment written.toList = true ↔
      IsDate written.toList ∨ IsMoment IsZone written.toList ∨
        IsMoment IsOverlongOffset written.toList) ∧
      ¬(IsMoment IsOverlongOffset written.toList ∧
        (IsDate written.toList ∨ IsMoment IsZone written.toList)) := by
  refine ⟨?_, ?_⟩
  · rw [← is_moment_iff, isDateOrMoment]
    split
    · rename_i alone
      obtain ⟨date, dated, split⟩ := (after_date_iff _ _).mp alone
      rw [split, List.append_nil]
      simp [dated]
    · rename_i other
      have noDate : ¬IsDate written.toList := by
        intro date
        exact other ((after_date_iff _ _).mpr ⟨_, date, by simp⟩)
      simp [noDate]
  · intro both
    have excluded := overlong_moment_excluded both.1
    rcases both.2 with date | moment
    · exact excluded.1 date
    · exact excluded.2 moment

example : isDateOrMoment "2000-02-29".toList = true ∧
    isDateOrMoment "1900-02-29".toList = false := by
  decide

/-- Twelve hours and sixty minutes ahead of Greenwich. -/
theorem late_moment : IsMoment IsOverlongOffset "2019-12-05T00:00:00+12:60".toList := by
  have read : readZone "2019-12-05T00:00:00+12:60".toList =
      some ('+' :: (['1', '2'] ++ ':' :: ['6', '0'])) := by
    decide
  apply (of_read_zone read).mono
  intro behind same
  rw [same]
  have hours : IsNumber 2 ['1', '2'] := ⟨rfl, List.all_eq_true.mp (by decide)⟩
  have minutes : IsNumber 2 ['6', '0'] := ⟨rfl, List.all_eq_true.mp (by decide)⟩
  exact .spelled '+' ['1', '2'] ['6', '0'] (Or.inl rfl) hours minutes (by decide)

theorem overlong_offset_accepted :
    isDateOrMoment "2019-12-05T00:00:00+12:60".toList = true ∧
      ¬(IsDate "2019-12-05T00:00:00+12:60".toList ∨
        IsMoment IsZone "2019-12-05T00:00:00+12:60".toList) := by
  have excluded := overlong_moment_excluded late_moment
  refine ⟨by decide, ?_⟩
  intro proper
  rcases proper with date | moment
  · exact excluded.1 date
  · exact excluded.2 moment

end DocumentRules.Format
