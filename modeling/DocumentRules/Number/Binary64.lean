/-!
Floating-point numbers of 64 bits, kept as exact integers: a finite number is a
significand times a power of two, so that rounding, comparison and printing are
questions about whole numbers. The significand has at most 53 bits and the least
exponent is -1074. A significand below 2^52 occurs with the least exponent only.
-/

set_option autoImplicit false

namespace DocumentRules.Number

inductive Binary64 where
  | nan
  | infinite (negative : Bool)
  | finite (negative : Bool) (significand : Nat) (exponent : Int)
  deriving DecidableEq, Repr, Inhabited

namespace Binary64

def leastExponent : Int := -1074

def greatestExponent : Int := 971

def zero (negative : Bool) : Binary64 := .finite negative 0 leastExponent

/-- The fraction `numerator / denominator` divided by a power of two, as a fraction. -/
def scaleDown (numerator denominator : Nat) (exponent : Int) : Nat × Nat :=
  if 0 ≤ exponent then (numerator, denominator * Nat.pow 2 exponent.toNat)
  else (numerator * Nat.pow 2 (-exponent).toNat, denominator)

/-- The whole number nearest to a fraction; of two equally near ones, the even one. -/
def roundHalfEven (numerator denominator : Nat) : Nat :=
  let below := numerator / denominator
  let twice := 2 * (numerator % denominator)
  if twice < denominator then below
  else if denominator < twice then below + 1
  else if below % 2 == 0 then below else below + 1

/-- The exponent with which a positive fraction has a significand of 53 bits, or the least. -/
def roundingExponent (numerator denominator : Nat) : Int :=
  let first := max leastExponent ((numerator.log2 : Int) - (denominator.log2 : Int) - 52)
  let (dividend, divisor) := scaleDown numerator denominator first
  if dividend / divisor < Nat.pow 2 52 then max leastExponent (first - 1) else first

/-- The number nearest to a fraction, ties to an even significand. -/
def ofRatio (negative : Bool) (numerator denominator : Nat) : Binary64 :=
  if numerator == 0 then zero negative
  else
    let exponent := roundingExponent numerator denominator
    let (dividend, divisor) := scaleDown numerator denominator exponent
    let rounded := roundHalfEven dividend divisor
    let (significand, exponent) :=
      if rounded == Nat.pow 2 53 then (Nat.pow 2 52, exponent + 1) else (rounded, exponent)
    if greatestExponent < exponent then .infinite negative
    else .finite negative significand exponent

/-- The number nearest to `digits * 10 ^ exponent`, where `digits` has `count` decimal digits.
Decimals far beyond the range are settled by their size alone. -/
def ofDecimal (negative : Bool) (digits count : Nat) (exponent : Int) : Binary64 :=
  if digits == 0 then zero negative
  else if 310 < (count : Int) + exponent then .infinite negative
  else if (count : Int) + exponent < -330 then zero negative
  else if 0 ≤ exponent then ofRatio negative (digits * Nat.pow 10 exponent.toNat) 1
  else ofRatio negative digits (Nat.pow 10 (-exponent).toNat)

def isZero : Binary64 → Bool
  | .finite _ significand _ => significand == 0
  | _ => false

def signed (negative : Bool) (magnitude : Nat) : Int :=
  if negative then -(magnitude : Int) else magnitude

/-- Order of `left * 2 ^ leftExponent` and `right * 2 ^ rightExponent`. -/
def compareScaled (left : Int) (leftExponent : Int) (right : Int) (rightExponent : Int) :
    Ordering :=
  let common := min leftExponent rightExponent
  compare (left * Nat.pow 2 (leftExponent - common).toNat)
    (right * Nat.pow 2 (rightExponent - common).toNat)

/-- Order by value; a number that is not a number has no place in it. -/
def compare? : Binary64 → Binary64 → Option Ordering
  | .nan, _ => none
  | _, .nan => none
  | .infinite left, .infinite right => some (compare right left)
  | .infinite negative, .finite .. => some (if negative then .lt else .gt)
  | .finite .., .infinite negative => some (if negative then .gt else .lt)
  | .finite leftSign left leftExponent, .finite rightSign right rightExponent =>
      some (compareScaled (signed leftSign left) leftExponent (signed rightSign right)
        rightExponent)

def compareInteger? (left : Int) : Binary64 → Option Ordering
  | .nan => none
  | .infinite negative => some (if negative then .gt else .lt)
  | .finite negative significand exponent =>
      some (compareScaled left 0 (signed negative significand) exponent)

end Binary64

end DocumentRules.Number
