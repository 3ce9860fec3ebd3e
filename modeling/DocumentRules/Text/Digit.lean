import DocumentRules.Text.Ranges

/-!
Decimal digits of the Unicode standard, version 14. Every decimal system of the
standard has its ten digits in a row, so a system is named by its digit zero.
-/

set_option autoImplicit false

namespace DocumentRules.Text

/-- The code points of digit zero, one for each decimal system. -/
def zeroDigits : List Nat :=
  [48, 1632, 1776, 1984, 2406, 2534, 2662, 2790, 2918, 3046, 3174, 3302, 3430, 3558, 3664, 3792,
   3872, 4160, 4240, 6112, 6160, 6470, 6608, 6784, 6800, 6992, 7088, 7232, 7248, 42528, 43216,
   43264, 43472, 43504, 43600, 44016, 65296, 66720, 68912, 69734, 69872, 69942, 70096, 70384,
   70736, 70864, 71248, 71360, 71472, 71904, 72016, 72784, 73040, 73120, 92768, 92864, 93008,
   120782, 120792, 120802, 120812, 120822, 123200, 123632, 125264, 130032]

/-- The value of a decimal digit of any system. -/
def digitValue? (code : Nat) : Option Nat :=
  (zeroDigits.find? fun first => first ≤ code && code < first + 10).map fun first => code - first

def isDigit (code : Nat) : Bool :=
  if code < 128 then 48 ≤ code && code ≤ 57 else (digitValue? code).isSome

def isPlainDigit (code : Nat) : Bool := 48 ≤ code && code ≤ 57

def isPlainLetter (code : Nat) : Bool :=
  (65 ≤ code && code ≤ 90) || (97 ≤ code && code ≤ 122)

def hexDigitValue? (code : Nat) : Option Nat :=
  if 48 ≤ code && code ≤ 57 then some (code - 48)
  else if 65 ≤ code && code ≤ 70 then some (code - 55)
  else if 97 ≤ code && code ≤ 102 then some (code - 87)
  else none

end DocumentRules.Text
