import DocumentRules.Text.Blank
import DocumentRules.Text.Digit

/-!
A recogniser of a whole line accepts its text with or without one line feed at the
end. The line feed is taken off first; a second one is an ordinary character.
-/

set_option autoImplicit false

namespace DocumentRules.Format

open DocumentRules.Text

/-- The text without a line feed at its end. -/
def lineOf (text : List Char) : List Char :=
  if text.getLast? = some '\n' then text.dropLast else text

def isLatinLetter (c : Char) : Bool := isPlainLetter c.toNat

def isLatinDigit (c : Char) : Bool := isPlainDigit c.toNat

def isLatinAlphanumeric (c : Char) : Bool := isLatinLetter c || isLatinDigit c

def isAnyDigit (c : Char) : Bool := isDigit c.toNat

def isSpace (c : Char) : Bool := isBlank c.toNat

def isRun (test : Char → Bool) (text : List Char) : Bool := !text.isEmpty && text.all test

def isAlphabetic (text : List Char) : Bool := isRun isLatinLetter (lineOf text)

def isAlphanumericText (text : List Char) : Bool := isRun isLatinAlphanumeric (lineOf text)

end DocumentRules.Format
