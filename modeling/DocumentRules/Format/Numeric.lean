import DocumentRules.Format.Line

/-!
Written numbers. A whole number has no zero before its other digits; a numeral may
have leading zeros and a fraction; a decimal may also end in its point and carry an
exponent. A sign may stand before each of them. Digits of every decimal system
count, except that the first digit of a whole number with several digits is Latin.
-/

set_option autoImplicit false

namespace DocumentRules.Format

/-- The text after a sign, if it begins with one. -/
def unsigned : List Char → List Char
  | '+' :: rest => rest
  | '-' :: rest => rest
  | text => text

def isWholeBody : List Char → Bool
  | ['0'] => true
  | first :: rest => isLatinDigit first && first != '0' && rest.all isAnyDigit
  | [] => false

def isWholeNumber (text : List Char) : Bool := isWholeBody (unsigned (lineOf text))

/-- Digits, or digits that may be missing, a point and digits. -/
def isNumeralBody : (anyDigit : Bool) → List Char → Bool
  | anyDigit, [] => anyDigit
  | _, c :: rest =>
      if isAnyDigit c then isNumeralBody true rest
      else c == '.' && isRun isAnyDigit rest

def isNumeral (text : List Char) : Bool := isNumeralBody false (unsigned (lineOf text))

def isExponentMark (c : Char) : Bool := c == 'e' || c == 'E'

def isExponent (text : List Char) : Bool := isRun isAnyDigit (unsigned text)

/-- Digits after the point, then an exponent or the end. -/
def isFraction : (anyDigit : Bool) → List Char → Bool
  | anyDigit, [] => anyDigit
  | anyDigit, c :: rest =>
      if isAnyDigit c then isFraction true rest
      else anyDigit && isExponentMark c && isExponent rest

def isDecimalBody : (anyDigit : Bool) → List Char → Bool
  | anyDigit, [] => anyDigit
  | anyDigit, c :: rest =>
      if isAnyDigit c then isDecimalBody true rest
      else if c == '.' then isFraction anyDigit rest
      else anyDigit && isExponentMark c && isExponent rest

def isDecimal (text : List Char) : Bool := isDecimalBody false (unsigned (lineOf text))

end DocumentRules.Format
