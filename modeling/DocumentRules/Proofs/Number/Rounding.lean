import DocumentRules.Number.Binary64
import Mathlib.Algebra.Order.Field.Power
import Mathlib.Tactic.FieldSimp
import Mathlib.Tactic.Linarith
import Mathlib.Tactic.NormNum
import Mathlib.Tactic.Positivity
import Mathlib.Tactic.Ring

/-!
Rounding to floating-point numbers. The exponent that is chosen gives the significand its
53 bits, or is the least one, so whatever is rounded takes the one form in which a number
is kept. The fractions that round to a number of that form are those of an interval around
it, which reaches halfway to its neighbours.
-/

set_option autoImplicit false

namespace DocumentRules.Number.Binary64

/-! ## Whole numbers -/

/-- A fraction at most half a unit away from a whole number rounds to it, if the number is even;
an odd number has to be nearer. -/
theorem round_half_even_eq {numerator denominator whole : Nat}
    (low : 2 * whole * denominator ≤ 2 * numerator + denominator)
    (high : 2 * numerator ≤ (2 * whole + 1) * denominator)
    (inside : whole % 2 = 1 → 2 * whole * denominator < 2 * numerator + denominator ∧
      2 * numerator < (2 * whole + 1) * denominator)
    (positive : 0 < denominator) : roundHalfEven numerator denominator = whole := by
  have division := Nat.div_add_mod numerator denominator
  have remainder := Nat.mod_lt numerator positive
  unfold roundHalfEven
  generalize numerator / denominator = below at *
  generalize numerator % denominator = rest at *
  subst division
  have atMost : 2 * whole < 2 * below + 3 := by
    apply Nat.lt_of_mul_lt_mul_right (a := denominator)
    calc 2 * whole * denominator ≤ 2 * (denominator * below + rest) + denominator := low
      _ < (2 * below + 3) * denominator := by linarith
  have atLeast : 2 * below < 2 * whole + 2 := by
    apply Nat.lt_of_mul_lt_mul_right (a := denominator)
    calc 2 * below * denominator ≤ 2 * (denominator * below + rest) := by linarith
      _ ≤ (2 * whole + 1) * denominator := high
      _ < (2 * whole + 2) * denominator := by linarith
  have near : whole = below ∨ whole = below + 1 := by omega
  have product : denominator * below = below * denominator := Nat.mul_comm _ _
  rcases near with rfl | rfl
  · have half : 2 * rest ≤ denominator := by linarith
    by_cases less : 2 * rest < denominator
    · rw [if_pos less]
    · have tie : 2 * rest = denominator := by omega
      have even : whole % 2 = 0 := by
        rcases Nat.mod_two_eq_zero_or_one whole with even | odd
        · exact even
        · have := (inside odd).2
          linarith
      rw [if_neg less, if_neg (by omega), if_pos (by simp [even])]
  · have half : denominator ≤ 2 * rest := by linarith
    rw [if_neg (by omega)]
    by_cases more : denominator < 2 * rest
    · rw [if_pos more]
    · have tie : 2 * rest = denominator := by omega
      have odd : below % 2 = 1 := by
        by_contra even
        have := (inside (by omega)).1
        linarith
      rw [if_neg more, if_neg (by simp [odd])]

theorem round_half_even_ratio {numerator denominator whole : Nat} (positive : 0 < denominator)
    (low : 2 * (whole : ℚ) - 1 ≤ 2 * (numerator / denominator))
    (high : 2 * ((numerator : ℚ) / denominator) ≤ 2 * whole + 1)
    (inside : whole % 2 = 1 → 2 * (whole : ℚ) - 1 < 2 * (numerator / denominator) ∧
      2 * ((numerator : ℚ) / denominator) < 2 * whole + 1) :
    roundHalfEven numerator denominator = whole := by
  have divisor : (0 : ℚ) < denominator := by exact_mod_cast positive
  rw [← mul_div_assoc] at low high inside
  rw [le_div_iff₀ divisor] at low
  rw [div_le_iff₀ divisor] at high
  rw [lt_div_iff₀ divisor, div_lt_iff₀ divisor] at inside
  apply round_half_even_eq _ _ _ positive
  · have shifted : 2 * (whole : ℚ) * denominator ≤ 2 * numerator + denominator := by linarith
    exact_mod_cast shifted
  · exact_mod_cast high
  · intro odd
    obtain ⟨above, below⟩ := inside odd
    have shifted : 2 * (whole : ℚ) * denominator < 2 * numerator + denominator := by linarith
    exact ⟨by exact_mod_cast shifted, by exact_mod_cast below⟩

theorem round_half_even_bounds (numerator denominator : Nat) :
    numerator / denominator ≤ roundHalfEven numerator denominator ∧
      roundHalfEven numerator denominator ≤ numerator / denominator + 1 := by
  unfold roundHalfEven
  dsimp only
  split
  · omega
  · split
    · omega
    · split <;> omega

/-! ## The exponent -/

theorem two_zpow_pos (exponent : Int) : 0 < (2 : ℚ) ^ exponent := by positivity

theorem two_zpow_mono {low high : Int} (le : low ≤ high) : (2 : ℚ) ^ low ≤ 2 ^ high :=
  zpow_le_zpow_right₀ (by norm_num) le

theorem le_of_two_zpow {low high : Int} (lt : (2 : ℚ) ^ low < 2 ^ (high + 1)) : low ≤ high := by
  have := (zpow_lt_zpow_iff_right₀ (by norm_num : (1 : ℚ) < 2)).mp lt
  omega

theorem two_zpow_add (exponent : Int) (steps : Nat) :
    (2 : ℚ) ^ (exponent + steps) = 2 ^ exponent * (2 : ℚ) ^ steps := by
  rw [zpow_add₀ (by norm_num), zpow_natCast]

theorem scale_down_pos {numerator denominator : Nat} (positive : 0 < denominator)
    (exponent : Int) : 0 < (scaleDown numerator denominator exponent).2 := by
  unfold scaleDown
  split
  · exact Nat.mul_pos positive (Nat.pow_pos (by decide))
  · exact positive

/-- Scaling down divides a fraction by a power of two. -/
theorem scale_down_value (numerator denominator : Nat) (exponent : Int) :
    ((scaleDown numerator denominator exponent).1 : ℚ) /
        (scaleDown numerator denominator exponent).2 =
      numerator / denominator / (2 : ℚ) ^ exponent := by
  unfold scaleDown
  split
  · rename_i upward
    obtain ⟨power, rfl⟩ := Int.eq_ofNat_of_zero_le upward
    simp only [Int.toNat_natCast, Nat.pow_eq, Nat.cast_mul, Nat.cast_pow, Nat.cast_ofNat,
      zpow_natCast]
    rw [div_div]
  · rename_i downward
    obtain ⟨power, same⟩ := Int.eq_ofNat_of_zero_le (show 0 ≤ -exponent by omega)
    have negative : exponent = -(power : Int) := by omega
    subst negative
    simp only [neg_neg, Int.toNat_natCast, Nat.pow_eq, Nat.cast_mul, Nat.cast_pow,
      Nat.cast_ofNat, zpow_neg, zpow_natCast, div_inv_eq_mul]
    ring

theorem log_bounds {value : Nat} (positive : 0 < value) :
    (2 : ℚ) ^ (value.log2 : Int) ≤ value ∧ (value : ℚ) < 2 ^ ((value.log2 : Int) + 1) := by
  have low := Nat.log2_self_le (Nat.pos_iff_ne_zero.mp positive)
  have high := Nat.lt_log2_self (n := value)
  constructor
  · rw [zpow_natCast]
    exact_mod_cast low
  · rw [show (value.log2 : Int) + 1 = ((value.log2 + 1 : Nat) : Int) by push_cast; rfl,
      zpow_natCast]
    exact_mod_cast high

/-- A fraction against the powers of two that the lengths of its parts suggest. -/
theorem ratio_bounds {numerator denominator : Nat} (above : 0 < numerator)
    (below : 0 < denominator) :
    (2 : ℚ) ^ ((numerator.log2 : Int) - denominator.log2 - 1) < numerator / denominator ∧
      (numerator : ℚ) / denominator < 2 ^ ((numerator.log2 : Int) - denominator.log2 + 1) := by
  obtain ⟨lowAbove, highAbove⟩ := log_bounds above
  obtain ⟨lowBelow, highBelow⟩ := log_bounds below
  have positive : (0 : ℚ) < denominator := by exact_mod_cast below
  constructor
  · rw [lt_div_iff₀ positive]
    calc (2 : ℚ) ^ ((numerator.log2 : Int) - denominator.log2 - 1) * denominator
        < 2 ^ ((numerator.log2 : Int) - denominator.log2 - 1) *
            2 ^ ((denominator.log2 : Int) + 1) :=
          mul_lt_mul_of_pos_left highBelow (two_zpow_pos _)
      _ = 2 ^ (numerator.log2 : Int) := by
          rw [← zpow_add₀ (by norm_num)]
          congr 1
          ring
      _ ≤ numerator := lowAbove
  · rw [div_lt_iff₀ positive]
    calc (numerator : ℚ) < 2 ^ ((numerator.log2 : Int) + 1) := highAbove
      _ = 2 ^ ((numerator.log2 : Int) - denominator.log2 + 1) * 2 ^ (denominator.log2 : Int) := by
          rw [← zpow_add₀ (by norm_num)]
          congr 1
          ring
      _ ≤ 2 ^ ((numerator.log2 : Int) - denominator.log2 + 1) * denominator :=
          mul_le_mul_of_nonneg_left lowBelow (two_zpow_pos _).le

/-- The significand has at most 53 bits with this exponent, and all of them unless the exponent
is the least. -/
structure SuitsRatio (ratio : ℚ) (exponent : Int) : Prop where
  least : leastExponent ≤ exponent
  below : ratio < 2 ^ (exponent + 53)
  full : exponent = leastExponent ∨ (2 : ℚ) ^ (exponent + 52) ≤ ratio

theorem div_lt_iff_ratio {dividend divisor bound : Nat} (positive : 0 < divisor) :
    dividend / divisor < bound ↔ (dividend : ℚ) / divisor < bound := by
  rw [Nat.div_lt_iff_lt_mul positive, div_lt_iff₀ (by exact_mod_cast positive)]
  exact_mod_cast Iff.rfl

theorem rounding_exponent_suits {numerator denominator : Nat} (above : 0 < numerator)
    (below : 0 < denominator) :
    SuitsRatio (numerator / denominator) (roundingExponent numerator denominator) := by
  obtain ⟨low, high⟩ := ratio_bounds above below
  unfold roundingExponent
  dsimp only
  generalize guessed : (numerator.log2 : Int) - denominator.log2 = guess at *
  generalize chosen : max leastExponent (guess - 52) = first
  have upper : (numerator : ℚ) / denominator < 2 ^ (first + 53) :=
    high.trans_le (two_zpow_mono (by omega))
  have full : (2 : ℚ) ^ (first + 52) = 2 ^ first * 2 ^ 52 := two_zpow_add first 52
  have small : (scaleDown numerator denominator first).1 /
      (scaleDown numerator denominator first).2 < Nat.pow 2 52 ↔
        (numerator : ℚ) / denominator < 2 ^ (first + 52) := by
    rw [div_lt_iff_ratio (scale_down_pos below first), scale_down_value,
      div_lt_iff₀ (two_zpow_pos first), full, mul_comm]
    norm_num
  by_cases short : (numerator : ℚ) / denominator < 2 ^ (first + 52)
  · rw [if_pos (small.mpr short)]
    by_cases bottom : first - 1 < leastExponent
    · have least : first = leastExponent := by omega
      rw [max_eq_left (by omega), ← least]
      exact ⟨by omega, upper, Or.inl least⟩
    · rw [max_eq_right (by omega)]
      have own : first = guess - 52 := by omega
      refine ⟨by omega, ?_, Or.inr ?_⟩
      · rw [show first - 1 + 53 = first + 52 by ring]
        exact short
      · rw [show first - 1 + 52 = guess - 1 by omega]
        exact low.le
  · rw [if_neg fun less => short (small.mp less)]
    exact ⟨by omega, upper, Or.inr (not_lt.mp short)⟩

/-! ## The form of what is rounded -/

/-- A number has its least exponent, or a significand with all of its 53 bits. -/
structure Canonical (significand : Nat) (exponent : Int) : Prop where
  bits : significand < Nat.pow 2 53
  least : leastExponent ≤ exponent
  full : exponent = leastExponent ∨ Nat.pow 2 52 ≤ significand

/-- The form in which a number is kept. -/
inductive IsKept : Binary64 → Prop where
  | nan : IsKept .nan
  | infinite (negative : Bool) : IsKept (.infinite negative)
  | finite (negative : Bool) {significand : Nat} {exponent : Int}
      (canonical : Canonical significand exponent) (bounded : exponent ≤ greatestExponent) :
      IsKept (.finite negative significand exponent)

theorem zero_kept (negative : Bool) : IsKept (zero negative) :=
  .finite negative ⟨by decide, le_refl _, Or.inl rfl⟩ (by decide)

section OfRatio

variable (negative : Bool) {numerator denominator : Nat}

/-- The parts of a fraction over the power of two that is chosen for it. -/
def scaledParts (numerator denominator : Nat) : Nat × Nat :=
  scaleDown numerator denominator (roundingExponent numerator denominator)

theorem of_ratio_rounded {significand : Nat} (above : 0 < numerator)
    (rounded : roundHalfEven (scaledParts numerator denominator).1
      (scaledParts numerator denominator).2 = significand)
    (plain : significand ≠ Nat.pow 2 53) :
    ofRatio negative numerator denominator =
      if greatestExponent < roundingExponent numerator denominator then .infinite negative
      else .finite negative significand (roundingExponent numerator denominator) := by
  have nonzero : ¬(numerator == 0) = true := by simp [Nat.pos_iff_ne_zero.mp above]
  have uncarried : ¬(significand == Nat.pow 2 53) = true := by simpa using plain
  simp only [scaledParts] at rounded
  simp only [ofRatio, if_neg nonzero, rounded, if_neg uncarried]

/-- A significand that is rounded up to one bit more loses its last bit again. -/
theorem of_ratio_carried (above : 0 < numerator)
    (rounded : roundHalfEven (scaledParts numerator denominator).1
      (scaledParts numerator denominator).2 = Nat.pow 2 53) :
    ofRatio negative numerator denominator =
      if greatestExponent < roundingExponent numerator denominator + 1 then .infinite negative
      else .finite negative (Nat.pow 2 52) (roundingExponent numerator denominator + 1) := by
  have nonzero : ¬(numerator == 0) = true := by simp [Nat.pos_iff_ne_zero.mp above]
  simp only [scaledParts] at rounded
  simp only [ofRatio, if_neg nonzero, rounded, beq_self_eq_true, if_true]

variable (above : 0 < numerator) (below : 0 < denominator)

include below in
theorem scaled_parts_pos : 0 < (scaledParts numerator denominator).2 :=
  scale_down_pos below _

theorem scaled_parts_value :
    ((scaledParts numerator denominator).1 : ℚ) / (scaledParts numerator denominator).2 =
      numerator / denominator / (2 : ℚ) ^ roundingExponent numerator denominator :=
  scale_down_value numerator denominator _

include above below in
/-- The whole part of the scaled fraction has at most 53 bits, and all of them unless the exponent
is the least. -/
theorem scaled_parts_quotient :
    (scaledParts numerator denominator).1 / (scaledParts numerator denominator).2 < Nat.pow 2 53 ∧
      (roundingExponent numerator denominator = leastExponent ∨ Nat.pow 2 52 ≤
        (scaledParts numerator denominator).1 / (scaledParts numerator denominator).2) := by
  have suits := rounding_exponent_suits above below
  have less (bits : Nat) :
      (scaledParts numerator denominator).1 / (scaledParts numerator denominator).2 <
          Nat.pow 2 bits ↔
        (numerator : ℚ) / denominator < 2 ^ (roundingExponent numerator denominator + bits) := by
    rw [div_lt_iff_ratio (scaled_parts_pos below), scaled_parts_value,
      div_lt_iff₀ (two_zpow_pos _), two_zpow_add, mul_comm, Nat.pow_eq]
    norm_num
  constructor
  · exact (less 53).mpr suits.below
  · rcases suits.full with least | full
    · exact Or.inl least
    · exact Or.inr (not_lt.mp fun short => not_lt.mpr full ((less 52).mp short))

include below in
theorem of_ratio_kept : IsKept (ofRatio negative numerator denominator) := by
  rcases Nat.eq_zero_or_pos numerator with none | above
  · rw [ofRatio, none]
    exact zero_kept negative
  · have suits := rounding_exponent_suits above below
    obtain ⟨short, full⟩ := scaled_parts_quotient above below
    have bounds := round_half_even_bounds (scaledParts numerator denominator).1
      (scaledParts numerator denominator).2
    generalize rounded : roundHalfEven _ _ = significand at bounds
    by_cases carry : significand = Nat.pow 2 53
    · rw [of_ratio_carried negative above (rounded.trans carry)]
      split
      · exact .infinite negative
      · rename_i bounded
        have least := suits.least
        exact .finite negative ⟨by decide, by omega, Or.inr (le_refl _)⟩ (not_lt.mp bounded)
    · rw [of_ratio_rounded negative above rounded carry]
      split
      · exact .infinite negative
      · rename_i bounded
        refine .finite negative ⟨by omega, suits.least, ?_⟩ (not_lt.mp bounded)
        rcases full with least | full
        · exact Or.inl least
        · exact Or.inr (full.trans bounds.1)

end OfRatio

theorem of_decimal_kept (negative : Bool) (digits count : Nat) (exponent : Int) :
    IsKept (ofDecimal negative digits count exponent) := by
  unfold ofDecimal
  split
  · exact zero_kept negative
  · split
    · exact .infinite negative
    · split
      · exact zero_kept negative
      · split
        · exact of_ratio_kept negative (by decide)
        · exact of_ratio_kept negative (Nat.pow_pos (by decide))

/-! ## What rounds to a number -/

/-- How far the interval of a number reaches down, in quarters of the unit of its significand:
the neighbour below a power of two is nearer. -/
def reach (significand : Nat) (exponent : Int) : Nat :=
  if significand = Nat.pow 2 52 ∧ leastExponent < exponent then 1 else 2

/-- The ratio lies in the interval of a number, and inside of it if the significand is odd. -/
structure RoundsTo (ratio : ℚ) (significand : Nat) (exponent : Int) : Prop where
  low : (4 * significand - reach significand exponent) * (2 : ℚ) ^ exponent ≤ 4 * ratio
  high : 4 * ratio ≤ (4 * significand + 2) * (2 : ℚ) ^ exponent
  inside : significand % 2 = 1 →
    (4 * significand - reach significand exponent) * (2 : ℚ) ^ exponent < 4 * ratio ∧
      4 * ratio < (4 * significand + 2) * (2 : ℚ) ^ exponent

theorem least_power : (10 : ℚ) ^ (-324 : Int) ≤ 2 ^ (leastExponent - 1) := by
  have general (few many : Nat) (le : Nat.pow 2 few ≤ Nat.pow 10 many) :
      (10 : ℚ) ^ (-(many : Int)) ≤ 2 ^ (-(few : Int)) := by
    rw [zpow_neg, zpow_neg, zpow_natCast, zpow_natCast]
    exact inv_anti₀ (by positivity) (by exact_mod_cast le)
  exact general 1075 324 (by decide +kernel)

theorem greatest_power : (2 : ℚ) ^ (greatestExponent + 54) ≤ 10 ^ (309 : Int) := by
  have general (few many : Nat) (le : Nat.pow 2 few ≤ Nat.pow 10 many) :
      (2 : ℚ) ^ (few : Int) ≤ 10 ^ (many : Int) := by
    rw [zpow_natCast, zpow_natCast]
    exact_mod_cast le
  exact general 1025 309 (by decide +kernel)

namespace RoundsTo

variable {ratio : ℚ} {significand : Nat} {exponent chosen : Int}

theorem reach_le (significand : Nat) (exponent : Int) :
    (reach significand exponent : ℚ) ≤ 2 := by
  unfold reach
  split <;> norm_num

/-- The exponent that suits a ratio is that of the number it rounds to, or one less where the
ratio lies below a power of two and rounds up to it. -/
theorem exponent_of_suits (rounds : RoundsTo ratio significand exponent)
    (canonical : Canonical significand exponent) (suits : SuitsRatio ratio chosen) :
    chosen = exponent ∨ (chosen + 1 = exponent ∧ significand = Nat.pow 2 52) := by
  have bits : (significand : ℚ) ≤ 2 ^ 53 - 1 := by
    have := canonical.bits
    norm_num at this ⊢
    exact_mod_cast Nat.le_of_lt_succ this
  have unit := two_zpow_pos exponent
  have atMost : chosen ≤ exponent := by
    rcases suits.full with least | full
    · exact least ▸ canonical.least
    · apply le_of_two_zpow
      have power : (2 : ℚ) ^ (chosen + 52) = 2 ^ chosen * 2 ^ 52 := two_zpow_add chosen 52
      have double : (2 : ℚ) ^ (exponent + 1) = 2 ^ exponent * 2 ^ 1 := two_zpow_add exponent 1
      have high := rounds.high
      rw [power] at full
      rw [double]
      nlinarith
  have top : (2 : ℚ) ^ (chosen + 53) = 2 ^ chosen * 2 ^ 53 := two_zpow_add chosen 53
  have below := suits.below
  have low := rounds.low
  have reached := reach_le significand exponent
  rw [top] at below
  rcases canonical.full with least | full
  · left
    have := suits.least
    omega
  · have filled : (2 : ℚ) ^ 52 ≤ significand := by exact_mod_cast full
    have atLeast : exponent ≤ chosen + 1 := by
      apply le_of_two_zpow
      have quadruple : (2 : ℚ) ^ (chosen + 1 + 1) = 2 ^ chosen * 2 ^ 2 := by
        rw [add_assoc]
        exact two_zpow_add chosen 2
      rw [quadruple]
      nlinarith
    by_cases same : chosen = exponent
    · exact Or.inl same
    · have next : chosen + 1 = exponent := by omega
      refine Or.inr ⟨next, ?_⟩
      by_contra other
      have more : (2 : ℚ) ^ 52 + 1 ≤ significand := by
        exact_mod_cast Nat.lt_of_le_of_ne full (Ne.symm other)
      have double : (2 : ℚ) ^ exponent = 2 ^ chosen * 2 ^ 1 := by
        rw [← next]
        exact two_zpow_add chosen 1
      nlinarith [two_zpow_pos chosen]

/-- The interval in units of the significand. -/
theorem in_units (rounds : RoundsTo ratio significand exponent) :
    4 * (significand : ℚ) - reach significand exponent ≤ 4 * (ratio / 2 ^ exponent) ∧
      4 * (ratio / 2 ^ exponent) ≤ 4 * significand + 2 ∧
      (significand % 2 = 1 →
        4 * (significand : ℚ) - reach significand exponent < 4 * (ratio / 2 ^ exponent) ∧
          4 * (ratio / 2 ^ exponent) < 4 * significand + 2) := by
  have unit := two_zpow_pos exponent
  simp only [← mul_div_assoc, le_div_iff₀ unit, div_le_iff₀ unit, lt_div_iff₀ unit,
    div_lt_iff₀ unit]
  exact ⟨rounds.low, rounds.high, rounds.inside⟩

/-- A fraction in the interval of a number is rounded to that number. -/
theorem of_ratio_eq (negative : Bool) {numerator denominator : Nat} (above : 0 < numerator)
    (below : 0 < denominator) (canonical : Canonical significand exponent)
    (bounded : exponent ≤ greatestExponent)
    (rounds : RoundsTo (numerator / denominator) significand exponent) :
    ofRatio negative numerator denominator = .finite negative significand exponent := by
  have suits := rounding_exponent_suits above below
  have divisor : 0 < (scaledParts numerator denominator).2 := scaled_parts_pos below
  have value : ((scaledParts numerator denominator).1 : ℚ) / (scaledParts numerator denominator).2 =
      numerator / denominator / (2 : ℚ) ^ roundingExponent numerator denominator :=
    scaled_parts_value
  rcases rounds.exponent_of_suits canonical suits with same | ⟨next, power⟩
  · have rounded : roundHalfEven (scaledParts numerator denominator).1
        (scaledParts numerator denominator).2 = significand := by
      obtain ⟨low, high, inside⟩ := rounds.in_units
      have reached := reach_le significand exponent
      rw [same] at value
      apply round_half_even_ratio divisor <;> rw [value]
      · linarith
      · linarith
      · intro odd
        obtain ⟨lower, upper⟩ := inside odd
        exact ⟨by linarith, by linarith⟩
    rw [of_ratio_rounded negative above rounded (Nat.ne_of_lt canonical.bits), same,
      if_neg (not_lt.mpr bounded)]
  · have rounded : roundHalfEven (scaledParts numerator denominator).1
        (scaledParts numerator denominator).2 = Nat.pow 2 53 := by
      have least := suits.least
      have near : reach significand exponent = 1 := if_pos ⟨power, by omega⟩
      have low := rounds.low
      have top : (2 : ℚ) ^ (roundingExponent numerator denominator + 53) =
          2 ^ roundingExponent numerator denominator * 2 ^ 53 := two_zpow_add _ 53
      have double : (2 : ℚ) ^ exponent = 2 ^ roundingExponent numerator denominator * 2 ^ 1 := by
        rw [← next]
        exact two_zpow_add _ 1
      have below := suits.below
      have unit := two_zpow_pos (roundingExponent numerator denominator)
      rw [near, power, double] at low
      rw [top] at below
      have lower : (2 : ℚ) ^ 54 - 1 ≤
          2 * (numerator / denominator / 2 ^ roundingExponent numerator denominator) := by
        rw [← mul_div_assoc, le_div_iff₀ unit]
        norm_num at low ⊢
        linarith
      have upper : 2 * ((numerator : ℚ) / denominator /
          2 ^ roundingExponent numerator denominator) ≤ 2 ^ 54 := by
        rw [← mul_div_assoc, div_le_iff₀ unit]
        linarith
      apply round_half_even_ratio divisor <;> rw [value] <;> norm_num at lower upper ⊢
      · exact lower
      · linarith
    rw [of_ratio_carried negative above rounded, next, if_neg (not_lt.mpr bounded), power]

theorem ratio_ge (rounds : RoundsTo ratio significand exponent)
    (canonical : Canonical significand exponent) (positive : 0 < significand) :
    (10 : ℚ) ^ (-324 : Int) ≤ ratio := by
  have one : (1 : ℚ) ≤ significand := by exact_mod_cast positive
  have reached := reach_le significand exponent
  have low := rounds.low
  have unit := two_zpow_pos exponent
  have least : (2 : ℚ) ^ leastExponent ≤ 2 ^ exponent := two_zpow_mono canonical.least
  have halved : (2 : ℚ) ^ leastExponent = 2 ^ (leastExponent - 1) * 2 ^ 1 := by
    rw [← two_zpow_add (leastExponent - 1) 1, Nat.cast_one, sub_add_cancel]
  refine le_trans least_power ?_
  rw [halved] at least
  nlinarith

theorem ratio_lt (rounds : RoundsTo ratio significand exponent)
    (canonical : Canonical significand exponent) (bounded : exponent ≤ greatestExponent) :
    ratio < (10 : ℚ) ^ (309 : Int) := by
  have bits : (significand : ℚ) ≤ 2 ^ 53 := by exact_mod_cast canonical.bits.le
  have greatest : (2 : ℚ) ^ exponent ≤ 2 ^ greatestExponent := two_zpow_mono bounded
  have top : (2 : ℚ) ^ (greatestExponent + 54) = 2 ^ greatestExponent * 2 ^ 54 :=
    two_zpow_add greatestExponent 54
  have high := rounds.high
  have unit := two_zpow_pos exponent
  refine lt_of_lt_of_le ?_ greatest_power
  rw [top]
  nlinarith

end RoundsTo

/-- A decimal in the interval of a number is read as that number, however many of its last digits
are zeros. -/
theorem of_decimal_eq (negative : Bool) {digits count significand : Nat} {power exponent : Int}
    (least : Nat.pow 10 (count - 1) ≤ digits) (below : digits < Nat.pow 10 count)
    (positive : 0 < significand) (canonical : Canonical significand exponent)
    (bounded : exponent ≤ greatestExponent)
    (rounds : RoundsTo (digits * (10 : ℚ) ^ power) significand exponent) :
    ofDecimal negative digits count power = .finite negative significand exponent := by
  have nonzero : 0 < digits := (Nat.pow_pos (by decide)).trans_le least
  have unit : (0 : ℚ) < 10 ^ power := by positivity
  have small : (count : Int) + power ≤ 310 := by
    have top := rounds.ratio_lt canonical bounded
    have first : (10 : ℚ) ^ ((count - 1 : Nat) + power : Int) ≤ digits * 10 ^ power := by
      rw [zpow_add₀ (by norm_num), zpow_natCast]
      exact mul_le_mul_of_nonneg_right (by exact_mod_cast least) unit.le
    have := (zpow_lt_zpow_iff_right₀ (by norm_num : (1 : ℚ) < 10)).mp (first.trans_lt top)
    omega
  have large : -330 ≤ (count : Int) + power := by
    have bottom := rounds.ratio_ge canonical positive
    have next : digits * (10 : ℚ) ^ power < 10 ^ ((count : Int) + power) := by
      rw [zpow_add₀ (by norm_num), zpow_natCast]
      exact mul_lt_mul_of_pos_right (by exact_mod_cast below) unit
    have := (zpow_lt_zpow_iff_right₀ (by norm_num : (1 : ℚ) < 10)).mp (bottom.trans_lt next)
    omega
  unfold ofDecimal
  rw [if_neg (by simp [Nat.pos_iff_ne_zero.mp nonzero]), if_neg (by omega), if_neg (by omega)]
  split
  · rename_i upward
    obtain ⟨steps, rfl⟩ := Int.eq_ofNat_of_zero_le upward
    refine RoundsTo.of_ratio_eq negative (Nat.mul_pos nonzero (Nat.pow_pos (by decide)))
      (by decide) canonical bounded ?_
    simpa [zpow_natCast] using rounds
  · rename_i downward
    obtain ⟨steps, same⟩ := Int.eq_ofNat_of_zero_le (show 0 ≤ -power by omega)
    obtain rfl : power = -(steps : Int) := by omega
    refine RoundsTo.of_ratio_eq negative nonzero (Nat.pow_pos (by decide)) canonical bounded ?_
    simpa [zpow_neg, zpow_natCast, div_eq_mul_inv] using rounds

end DocumentRules.Number.Binary64
