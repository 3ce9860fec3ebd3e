import DocumentRules.Number.Shortest
import DocumentRules.Proofs.Number.Decimal
import DocumentRules.Proofs.Number.Rounding

/-!
The decimal text of a number is read back as the number. The digits that are chosen lie in
the interval of what rounds to it: on each grid only neighbours inside of the interval are
taken, and on the grid of seventeen digits one of them always is.
-/

set_option autoImplicit false

namespace DocumentRules.Number

open Binary64

namespace Decimal

/-! ## Exact comparison -/

/-- The parts of a power with either sign, multiplied out. -/
theorem zpow_multiplied {base : ℚ} (nonzero : base ≠ 0) (power : Int) :
    base ^ power * base ^ (-power).toNat = base ^ power.toNat := by
  rw [← zpow_natCast, ← zpow_natCast base power.toNat, ← zpow_add₀ nonzero]
  congr 1
  omega

/-- What both sides of a comparison are multiplied by. -/
def multiplier (power exponent : Int) : ℚ := 10 ^ (-power).toNat * 2 ^ (-exponent).toNat

theorem multiplier_pos (power exponent : Int) : 0 < multiplier power exponent := by
  unfold multiplier
  positivity

theorem multiplied_decimal (digits : Nat) (power exponent : Int) :
    ((digits * Nat.pow 10 power.toNat * Nat.pow 2 (-exponent).toNat : Nat) : ℚ) =
      digits * 10 ^ power * multiplier power exponent := by
  have ten := zpow_multiplied (by norm_num : (10 : ℚ) ≠ 0) power
  simp only [Nat.pow_eq, Nat.cast_mul, Nat.cast_pow, Nat.cast_ofNat, multiplier]
  rw [← ten]
  ring

theorem multiplied_binary (value : Nat) (power exponent : Int) :
    ((value * Nat.pow 2 exponent.toNat * Nat.pow 10 (-power).toNat : Nat) : ℚ) =
      value * 2 ^ exponent * multiplier power exponent := by
  have two := zpow_multiplied (by norm_num : (2 : ℚ) ≠ 0) exponent
  simp only [Nat.pow_eq, Nat.cast_mul, Nat.cast_pow, Nat.cast_ofNat, multiplier]
  rw [← two]
  ring

theorem compare_binary_lt_iff (digits : Nat) (power : Int) (value : Nat) (exponent : Int) :
    compareBinary digits power value exponent = .lt ↔
      (digits : ℚ) * 10 ^ power < value * 2 ^ exponent := by
  rw [compareBinary, Nat.compare_eq_lt, ← Nat.cast_lt (α := ℚ), multiplied_decimal,
    multiplied_binary, mul_lt_mul_iff_left₀ (multiplier_pos power exponent)]

theorem compare_binary_gt_iff (digits : Nat) (power : Int) (value : Nat) (exponent : Int) :
    compareBinary digits power value exponent = .gt ↔
      (value : ℚ) * 2 ^ exponent < digits * 10 ^ power := by
  rw [compareBinary, Nat.compare_eq_gt, ← Nat.cast_lt (α := ℚ), multiplied_decimal,
    multiplied_binary, mul_lt_mul_iff_left₀ (multiplier_pos power exponent)]

theorem floor_quotient_bounds (value : Nat) (exponent power : Int) :
    (floorQuotient value exponent power : ℚ) * 10 ^ power ≤ value * 2 ^ exponent ∧
      (value : ℚ) * 2 ^ exponent < (floorQuotient value exponent power + 1) * 10 ^ power := by
  have positive := multiplier_pos power exponent
  have divisor : 0 < Nat.pow 10 power.toNat * Nat.pow 2 (-exponent).toNat :=
    Nat.mul_pos (Nat.pow_pos (by decide)) (Nat.pow_pos (by decide))
  have product (digits : Nat) :
      digits * (Nat.pow 10 power.toNat * Nat.pow 2 (-exponent).toNat) =
        digits * Nat.pow 10 power.toNat * Nat.pow 2 (-exponent).toNat := by
    rw [Nat.mul_assoc]
  constructor
  · have low := Nat.div_mul_le_self (value * Nat.pow 2 exponent.toNat * Nat.pow 10 (-power).toNat)
      (Nat.pow 10 power.toNat * Nat.pow 2 (-exponent).toNat)
    rw [product, ← Nat.cast_le (α := ℚ), multiplied_decimal, multiplied_binary] at low
    exact le_of_mul_le_mul_right low positive
  · have high := Nat.lt_mul_div_succ
      (value * Nat.pow 2 exponent.toNat * Nat.pow 10 (-power).toNat) divisor
    rw [Nat.mul_comm (Nat.pow 10 power.toNat * Nat.pow 2 (-exponent).toNat), product,
      ← Nat.cast_lt (α := ℚ), multiplied_decimal, multiplied_binary] at high
    have less := lt_of_mul_lt_mul_right high positive.le
    rwa [Nat.cast_add, Nat.cast_one] at less

/-! ## The interval -/

section Basin

variable {significand : Nat} {exponent : Int}

theorem quarter (exponent : Int) : (2 : ℚ) ^ exponent = 4 * 2 ^ (exponent - 2) := by
  have split := two_zpow_add (exponent - 2) 2
  rw [Nat.cast_ofNat, sub_add_cancel] at split
  rw [split]
  ring

theorem basin_low (positive : 0 < significand) :
    ((basin significand exponent).low : ℚ) =
      4 * significand - reach significand exponent := by
  have own : (basin significand exponent).low = 4 * significand - reach significand exponent := by
    simp only [basin, reach, Bool.and_eq_true, beq_iff_eq, decide_eq_true_eq]
  have small : reach significand exponent ≤ 4 * significand := by
    unfold reach
    split <;> omega
  rw [own, Nat.cast_sub small]
  push_cast
  rfl

theorem basin_high : ((basin significand exponent).high : ℚ) = 4 * significand + 2 := by
  simp [basin]

theorem rounds_to_iff (positive : 0 < significand) (ratio : ℚ) :
    RoundsTo ratio significand exponent ↔
      (basin significand exponent).low * (2 : ℚ) ^ (exponent - 2) ≤ ratio ∧
        ratio ≤ (basin significand exponent).high * (2 : ℚ) ^ (exponent - 2) ∧
        (significand % 2 = 1 →
          (basin significand exponent).low * (2 : ℚ) ^ (exponent - 2) < ratio ∧
            ratio < (basin significand exponent).high * (2 : ℚ) ^ (exponent - 2)) := by
  have unit := quarter exponent
  rw [basin_low positive, basin_high]
  constructor
  · rintro ⟨low, high, inside⟩
    rw [unit] at low high inside
    refine ⟨by linarith, by linarith, ?_⟩
    intro odd
    obtain ⟨above, below⟩ := inside odd
    exact ⟨by linarith, by linarith⟩
  · rintro ⟨low, high, inside⟩
    constructor <;> rw [unit]
    · linarith
    · linarith
    · intro odd
      obtain ⟨above, below⟩ := inside odd
      exact ⟨by linarith, by linarith⟩

/-- The interval holds the decimals that round to the number. -/
theorem holds_iff (positive : 0 < significand) (digits : Nat) (power : Int) :
    (basin significand exponent).holds digits power = true ↔
      RoundsTo (digits * 10 ^ power) significand exponent := by
  have low := compare_binary_lt_iff digits power (basin significand exponent).low (exponent - 2)
  have above := compare_binary_gt_iff digits power (basin significand exponent).low (exponent - 2)
  have high := compare_binary_gt_iff digits power (basin significand exponent).high (exponent - 2)
  have below := compare_binary_lt_iff digits power (basin significand exponent).high (exponent - 2)
  have place : (basin significand exponent).exponent = exponent - 2 := rfl
  have closed : (basin significand exponent).closed = (significand % 2 == 0) := rfl
  rw [rounds_to_iff positive, Basin.holds, closed, place]
  rcases Nat.mod_two_eq_zero_or_one significand with even | odd
  · simp only [even, beq_self_eq_true, if_true, Bool.and_eq_true, bne_iff_ne, ne_eq, low, high,
      not_lt, Nat.zero_ne_one, false_implies, and_true]
  · have open_ : ((1 : Nat) == 0) = false := rfl
    simp only [odd, open_, Bool.false_eq_true, if_false, Bool.and_eq_true, beq_iff_eq, above,
      below, true_implies]
    exact ⟨fun both => ⟨both.1.le, both.2.le, both⟩, fun all => all.2.2⟩

variable (positive : 0 < significand) (canonical : Canonical significand exponent)

include canonical in
/-- Of the two neighbours on a grid at least sixteen powers of ten below the number, one lies in
the interval. -/
theorem neighbour_rounds {power : Int}
    (fine : (10 : ℚ) ^ (power + 16) ≤ significand * 2 ^ exponent) :
    RoundsTo (floorQuotient (4 * significand) (exponent - 2) power * 10 ^ power) significand
        exponent ∨
      RoundsTo ((floorQuotient (4 * significand) (exponent - 2) power + 1 : Nat) * 10 ^ power)
        significand exponent := by
  obtain ⟨below, above⟩ := floor_quotient_bounds (4 * significand) (exponent - 2) power
  generalize floorQuotient (4 * significand) (exponent - 2) power = digits at *
  have middle : ((4 * significand : Nat) : ℚ) * 2 ^ (exponent - 2) =
      significand * 2 ^ exponent := by
    rw [quarter exponent]
    push_cast
    ring
  rw [middle] at below above
  have grid : (10 : ℚ) ^ (power + 16) = 10 ^ power * 10 ^ 16 := by
    rw [zpow_add₀ (by norm_num)]
    rfl
  have unit := two_zpow_pos exponent
  have bits : (significand : ℚ) < 2 ^ 53 := by exact_mod_cast canonical.bits
  rw [grid] at fine
  have reachPos : (1 : ℚ) ≤ reach significand exponent := by
    unfold reach
    split <;> norm_num
  -- If both neighbours lie outside, the grid is wider than the number of digits allows.
  by_contra neither
  obtain ⟨notBelow, notAbove⟩ := not_or.mp neither
  have lower : 4 * (digits * (10 : ℚ) ^ power) ≤
      (4 * significand - reach significand exponent) * 2 ^ exponent := by
    by_contra inside
    rw [not_le] at inside
    have upper : 4 * (digits * (10 : ℚ) ^ power) < (4 * significand + 2) * 2 ^ exponent := by
      linarith
    exact notBelow ⟨inside.le, upper.le, fun _ => ⟨inside, upper⟩⟩
  have upper : (4 * significand + 2) * (2 : ℚ) ^ exponent ≤
      4 * ((digits + 1 : Nat) * 10 ^ power) := by
    by_contra inside
    rw [not_le] at inside
    have low : (4 * significand - reach significand exponent) * (2 : ℚ) ^ exponent <
        4 * ((digits + 1 : Nat) * 10 ^ power) := by
      push_cast
      nlinarith
    exact notAbove ⟨low.le, inside.le, fun _ => ⟨low, inside⟩⟩
  have wide : (2 + reach significand exponent) * (2 : ℚ) ^ exponent ≤ 4 * 10 ^ power := by
    push_cast at upper
    linarith
  unfold reach at wide
  split at wide
  · rename_i least
    have power : (significand : ℚ) = 2 ^ 52 := by exact_mod_cast least.1
    rw [power] at fine
    push_cast at wide
    linarith
  · push_cast at wide
    nlinarith

include positive canonical in
theorem on_grid_some {power : Int} (fine : (10 : ℚ) ^ (power + 16) ≤ significand * 2 ^ exponent) :
    ((basin significand exponent).onGrid power).isSome = true := by
  have neighbour := neighbour_rounds canonical fine
  rw [← holds_iff positive, ← holds_iff positive] at neighbour
  have middle : (basin significand exponent).middle = 4 * significand := rfl
  have place : (basin significand exponent).exponent = exponent - 2 := rfl
  unfold Basin.onGrid
  rw [middle, place]
  dsimp only
  rcases neighbour with below | above
  · rw [below]
    split <;> first | rfl | contradiction
  · rw [above]
    split <;> first | rfl | contradiction

include positive in
theorem on_grid_rounds {power : Int} {digits : Nat}
    (found : (basin significand exponent).onGrid power = some digits) :
    RoundsTo (digits * 10 ^ power) significand exponent := by
  rw [← holds_iff positive]
  unfold Basin.onGrid at found
  dsimp only at found
  split at found
  · rename_i below above
    cases found
    unfold Basin.nearer
    split
    · exact above
    · exact below
    · split
      · exact below
      · exact above
  · rename_i below _
    cases found
    exact below
  · rename_i _ above
    cases found
    exact above
  · cases found

/-- The exact value of a decimal. -/
def value (decimal : Decimal) : ℚ := decimal.digits * 10 ^ decimal.exponent

include positive in
/-- The search ends inside of the interval if one of the grids it tries has a point there. -/
theorem search_rounds (tries : Nat) (power : Int) (later : Nat) (few : later < tries)
    (reached : ((basin significand exponent).onGrid (power - later)).isSome = true) :
    RoundsTo ((basin significand exponent).search tries power).value significand exponent := by
  induction tries generalizing power later with
  | zero => exact absurd few (Nat.not_lt_zero later)
  | succ tries induction =>
      rw [Basin.search]
      cases found : (basin significand exponent).onGrid power with
      | some digits => exact on_grid_rounds positive found
      | none =>
          cases later with
          | zero =>
              rw [Nat.cast_zero, sub_zero, found] at reached
              cases reached
          | succ later =>
              apply induction (power - 1) later (Nat.lt_of_succ_lt_succ few)
              rw [show power - 1 - (later : Int) = power - ((later + 1 : Nat) : Int) by
                push_cast; ring]
              exact reached

end Basin

/-! ## The first grid -/

/-- A power of ten is at most a power of two if the exponents say so, in the ratio of 59 to 196
upwards and of 28 to 93 downwards. -/
theorem ten_zpow_le_two_zpow {power length : Int} (upward : 0 ≤ power → 196 * power ≤ 59 * length)
    (downward : power < 0 → 93 * power ≤ 28 * length) : (10 : ℚ) ^ power ≤ 2 ^ length := by
  rcases le_or_gt 0 power with up | down
  · obtain ⟨steps, rfl⟩ := Int.eq_ofNat_of_zero_le up
    apply le_of_pow_le_pow_left₀ (n := 59) (by decide) (two_zpow_pos length).le
    calc ((10 : ℚ) ^ (steps : Int)) ^ 59 = (10 ^ 59) ^ steps := by
          rw [zpow_natCast, ← pow_mul, ← pow_mul, Nat.mul_comm]
      _ ≤ (2 ^ 196) ^ steps := pow_le_pow_left₀ (by norm_num) (by norm_num) steps
      _ = 2 ^ (196 * (steps : Int)) := by
          rw [← pow_mul, ← zpow_natCast]
          push_cast
          rfl
      _ ≤ 2 ^ (59 * length) := two_zpow_mono (upward up)
      _ = (2 ^ length) ^ 59 := by rw [← zpow_natCast, ← zpow_mul, mul_comm]; rfl
  · obtain ⟨steps, same⟩ := Int.eq_ofNat_of_zero_le (show 0 ≤ -power by omega)
    obtain rfl : power = -(steps : Int) := by omega
    apply le_of_pow_le_pow_left₀ (n := 28) (by decide) (two_zpow_pos length).le
    calc ((10 : ℚ) ^ (-(steps : Int))) ^ 28 = ((10 ^ 28) ^ steps)⁻¹ := by
          rw [zpow_neg, zpow_natCast, inv_pow, ← pow_mul, ← pow_mul, Nat.mul_comm]
      _ ≤ ((2 ^ 93) ^ steps)⁻¹ :=
          inv_anti₀ (by positivity) (pow_le_pow_left₀ (by norm_num) (by norm_num) steps)
      _ = 2 ^ (93 * -(steps : Int)) := by
          rw [← pow_mul, ← zpow_natCast, ← zpow_neg]
          push_cast
          rw [mul_neg]
      _ ≤ 2 ^ (28 * length) := two_zpow_mono (downward down)
      _ = (2 ^ length) ^ 28 := by rw [← zpow_natCast, ← zpow_mul, mul_comm]; rfl

theorem leading_power_le {value : Nat} {exponent : Int} (positive : 0 < value)
    (short : value < Nat.pow 2 55) (least : -1080 ≤ exponent) (greatest : exponent ≤ 969) :
    (10 : ℚ) ^ leadingPower value exponent ≤ value * 2 ^ exponent := by
  have notAbove (power : Int) (notGreater : compareBinary 1 power value exponent ≠ .gt) :
      (10 : ℚ) ^ power ≤ value * 2 ^ exponent := by
    rw [Ne, compare_binary_gt_iff, not_lt, Nat.cast_one, one_mul] at notGreater
    exact notGreater
  unfold leadingPower
  dsimp only
  split
  · rename_i next
    exact notAbove _ (by simpa using next)
  · split
    · rename_i own
      exact notAbove _ (by simpa using own)
    · have bits : value.log2 < 55 := (Nat.log2_lt (Nat.pos_iff_ne_zero.mp positive)).mpr short
      calc (10 : ℚ) ^ (((value.log2 : Int) + exponent) * 30103 / 100000 - 1)
          ≤ 2 ^ ((value.log2 : Int) + exponent) := by
            apply ten_zpow_le_two_zpow <;> omega
        _ = 2 ^ (value.log2 : Int) * 2 ^ exponent := zpow_add₀ (by norm_num) _ _
        _ ≤ value * 2 ^ exponent :=
            mul_le_mul_of_nonneg_right (log_bounds positive).1 (two_zpow_pos exponent).le

/-! ## The shortest digits -/

theorem strip_value (fuel : Nat) (decimal : Decimal) :
    (strip fuel decimal).value = decimal.value := by
  induction fuel generalizing decimal with
  | zero => rfl
  | succ fuel induction =>
      rw [strip]
      split
      · rename_i tens
        rw [Bool.and_eq_true, bne_iff_ne, beq_iff_eq] at tens
        rw [induction, value, value]
        have whole : decimal.digits = decimal.digits / 10 * 10 := by omega
        have next : (10 : ℚ) ^ (decimal.exponent + 1) = 10 ^ decimal.exponent * 10 :=
          zpow_add_one₀ (by norm_num) _
        conv_rhs => rw [whole]
        rw [next]
        push_cast
        ring
      · rfl

/-- The shortest digits of a number lie in its interval. -/
theorem shortest_rounds {significand : Nat} {exponent : Int} (positive : 0 < significand)
    (canonical : Canonical significand exponent) (bounded : exponent ≤ greatestExponent) :
    RoundsTo (shortest significand exponent).value significand exponent := by
  have bits : significand < 2 ^ 53 := canonical.bits
  have short : 4 * significand < 2 ^ 55 := by omega
  have least := canonical.least
  unfold leastExponent at least
  unfold greatestExponent at bounded
  have middle : (basin significand exponent).middle = 4 * significand := rfl
  have place : (basin significand exponent).exponent = exponent - 2 := rfl
  have leading : (10 : ℚ) ^ leadingPower (4 * significand) (exponent - 2) ≤
      ((4 * significand : Nat) : ℚ) * 2 ^ (exponent - 2) :=
    leading_power_le (by omega) short (by omega) (by omega)
  unfold shortest
  dsimp only
  rw [strip_value, middle, place]
  apply search_rounds positive 17 _ 16 (by decide)
  apply on_grid_some positive canonical
  rw [Nat.cast_ofNat, sub_add_cancel, quarter exponent]
  calc (10 : ℚ) ^ leadingPower (4 * significand) (exponent - 2)
      ≤ ((4 * significand : Nat) : ℚ) * 2 ^ (exponent - 2) := leading
    _ = significand * (4 * 2 ^ (exponent - 2)) := by
        push_cast
        ring

end Decimal

theorem natural_chars_bounds {value : Nat} (positive : 0 < value) :
    Nat.pow 10 ((naturalChars value).length - 1) ≤ value ∧
      value < Nat.pow 10 (naturalChars value).length := by
  have filled : 0 < (naturalChars value).length := List.length_pos_iff.mpr Nat.toDigits_ne_nil
  constructor
  · rcases Nat.eq_zero_or_pos ((naturalChars value).length - 1) with single | several
    · rw [single]
      exact positive
    · by_contra less
      have shorter := natural_chars_length_le several (not_le.mp less)
      omega
  · exact (Nat.length_toDigits_le_iff (by decide) filled).mp (le_refl _)

theorem Decimal.shortest_digits_pos {significand : Nat} {exponent : Int}
    (positive : 0 < significand) (canonical : Canonical significand exponent)
    (bounded : exponent ≤ greatestExponent) :
    0 < (Decimal.shortest significand exponent).digits := by
  have rounds := Decimal.shortest_rounds positive canonical bounded
  rcases Nat.eq_zero_or_pos (Decimal.shortest significand exponent).digits with none | some
  · have bottom := rounds.ratio_ge canonical positive
    rw [Decimal.value, none, Nat.cast_zero, zero_mul] at bottom
    exact absurd bottom (not_le.mpr (by positivity))
  · exact some

/-- The shortest digits of a number, with any number of zeros behind them, are read as the
number. -/
theorem of_decimal_shortest (negative : Bool) {significand : Nat} {exponent : Int}
    (positive : 0 < significand) (canonical : Canonical significand exponent)
    (bounded : exponent ≤ greatestExponent) (zeros : Nat) :
    ofDecimal negative ((Decimal.shortest significand exponent).digits * Nat.pow 10 zeros)
        ((naturalChars (Decimal.shortest significand exponent).digits).length + zeros)
        ((Decimal.shortest significand exponent).exponent - zeros) =
      .finite negative significand exponent := by
  have rounds := Decimal.shortest_rounds positive canonical bounded
  have nonzero := Decimal.shortest_digits_pos positive canonical bounded
  generalize Decimal.shortest significand exponent = decimal at *
  obtain ⟨least, below⟩ := natural_chars_bounds nonzero
  have filled : 0 < (naturalChars decimal.digits).length :=
    List.length_pos_iff.mpr Nat.toDigits_ne_nil
  simp only [Nat.pow_eq] at *
  apply of_decimal_eq negative _ _ positive canonical bounded
  · have value : ((decimal.digits * 10 ^ zeros : Nat) : ℚ) *
        10 ^ (decimal.exponent - (zeros : Int)) = decimal.value := by
      rw [zpow_sub₀ (by norm_num), zpow_natCast, Decimal.value]
      push_cast
      field_simp
    rw [value]
    exact rounds
  · rw [Nat.pow_eq, Nat.sub_add_comm filled, Nat.pow_add]
    exact Nat.mul_le_mul_right _ least
  · rw [Nat.pow_eq, Nat.pow_add]
    exact Nat.mul_lt_mul_of_pos_right below (Nat.pow_pos (by decide))

end DocumentRules.Number
