import DocumentRules.Number.Binary64
import DocumentRules.Number.Integer

/-!
Decimal text of floating-point numbers. The digits are the fewest that read back as
the same number, and among those the nearest to it; a tie goes to the even digit.
They are found on the grids of 1, 2, … 17 digits: on each grid only the two
neighbours of the number are tried. How the digits are laid out is a record.
-/

set_option autoImplicit false

namespace DocumentRules.Number

/-- The number `digits * 10 ^ exponent`. -/
structure Decimal where
  digits : Nat
  exponent : Int
  deriving DecidableEq, Repr

namespace Decimal

/-- `value * 2 ^ exponent` against `digits * 10 ^ power`, both multiplied out. -/
def compareBinary (digits : Nat) (power : Int) (value : Nat) (exponent : Int) : Ordering :=
  compare (digits * Nat.pow 10 power.toNat * Nat.pow 2 (-exponent).toNat)
    (value * Nat.pow 2 exponent.toNat * Nat.pow 10 (-power).toNat)

/-- The quotient of `value * 2 ^ exponent` by `10 ^ power`, rounded down. -/
def floorQuotient (value : Nat) (exponent power : Int) : Nat :=
  (value * Nat.pow 2 exponent.toNat * Nat.pow 10 (-power).toNat) /
    (Nat.pow 10 power.toNat * Nat.pow 2 (-exponent).toNat)

/-- The greatest power of ten that is not above `value * 2 ^ exponent`. -/
def leadingPower (value : Nat) (exponent : Int) : Int :=
  let guess := ((value.log2 : Int) + exponent) * 30103 / 100000
  if compareBinary 1 (guess + 1) value exponent != .gt then guess + 1
  else if compareBinary 1 guess value exponent != .gt then guess
  else guess - 1

/-- The reals that round to a significand, in quarters of its unit; the ends belong to the
interval when the significand is even. -/
structure Basin where
  low : Nat
  middle : Nat
  high : Nat
  closed : Bool
  exponent : Int

def basin (significand : Nat) (exponent : Int) : Basin where
  low := 4 * significand -
    (if significand == Nat.pow 2 52 && decide (Binary64.leastExponent < exponent) then 1 else 2)
  middle := 4 * significand
  high := 4 * significand + 2
  closed := significand % 2 == 0
  exponent := exponent - 2

def Basin.holds (basin : Basin) (digits : Nat) (power : Int) : Bool :=
  let fromLow := compareBinary digits power basin.low basin.exponent
  let fromHigh := compareBinary digits power basin.high basin.exponent
  if basin.closed then fromLow != .lt && fromHigh != .gt
  else fromLow == .gt && fromHigh == .lt

/-- Of two neighbouring grid points, the one nearer to the middle of the basin. -/
def Basin.nearer (basin : Basin) (below : Nat) (power : Int) : Nat :=
  match compareBinary (2 * below + 1) power (2 * basin.middle) basin.exponent with
  | .lt => below + 1
  | .gt => below
  | .eq => if below % 2 == 0 then below else below + 1

def Basin.onGrid (basin : Basin) (power : Int) : Option Nat :=
  let below := floorQuotient basin.middle basin.exponent power
  match basin.holds below power, basin.holds (below + 1) power with
  | true, true => some (basin.nearer below power)
  | true, false => some below
  | false, true => some (below + 1)
  | false, false => none

/-- Tries grids with ever more digits; seventeen digits always suffice. -/
def Basin.search (basin : Basin) : Nat → Int → Decimal
  | 0, power => ⟨floorQuotient basin.middle basin.exponent power, power⟩
  | tries + 1, power =>
      match basin.onGrid power with
      | some digits => ⟨digits, power⟩
      | none => basin.search tries (power - 1)

def strip : Nat → Decimal → Decimal
  | 0, decimal => decimal
  | fuel + 1, decimal =>
      if decimal.digits != 0 && decimal.digits % 10 == 0 then
        strip fuel ⟨decimal.digits / 10, decimal.exponent + 1⟩
      else decimal

def shortest (significand : Nat) (exponent : Int) : Decimal :=
  let basin := basin significand exponent
  strip 18 (basin.search 17 (leadingPower basin.middle basin.exponent))

end Decimal

/-- How a floating-point number is laid out. Positional notation is used when the power of ten
of the first digit is at least `positionalFrom` and below `positionalBelow`. -/
structure NumberLayout where
  positionalFrom : Int
  positionalBelow : Int
  exponentDigits : Nat
  notANumber : String
  infinity : String
  negativeInfinity : String

namespace NumberLayout

def zeros (count : Nat) : List Char := List.replicate count '0'

def positional (digits : List Char) (pointAfter : Int) : List Char :=
  if pointAfter ≤ 0 then '0' :: '.' :: zeros (-pointAfter).toNat ++ digits
  else if (digits.length : Int) ≤ pointAfter then
    digits ++ zeros (pointAfter.toNat - digits.length) ++ ['.', '0']
  else digits.take pointAfter.toNat ++ '.' :: digits.drop pointAfter.toNat

def scientific (layout : NumberLayout) (digits : List Char) (power : Int) : List Char :=
  let exponent := naturalChars power.natAbs
  let padded := zeros (layout.exponentDigits - exponent.length) ++ exponent
  let mantissa :=
    match digits with
    | first :: second :: rest => first :: '.' :: second :: rest
    | short => short
  mantissa ++ 'e' :: (if power < 0 then '-' else '+') :: padded

def decimalChars (layout : NumberLayout) (decimal : Decimal) : List Char :=
  let digits := naturalChars decimal.digits
  let power := decimal.exponent + digits.length - 1
  if layout.positionalFrom ≤ power && power < layout.positionalBelow then
    positional digits (power + 1)
  else layout.scientific digits power

def chars (layout : NumberLayout) : Binary64 → List Char
  | .nan => layout.notANumber.toList
  | .infinite negative =>
      (if negative then layout.negativeInfinity else layout.infinity).toList
  | .finite negative significand exponent =>
      let magnitude :=
        if significand == 0 then ['0', '.', '0']
        else layout.decimalChars (Decimal.shortest significand exponent)
      if negative then '-' :: magnitude else magnitude

end NumberLayout

end DocumentRules.Number
