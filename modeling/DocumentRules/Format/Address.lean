import DocumentRules.Format.Line
import DocumentRules.Text.Joined

/-!
Mail addresses and web addresses. Both name a host by labels between points: a label
has up to 63 letters, digits and hyphens with no hyphen at either end, and the last
label consists of two or more letters.
-/

set_option autoImplicit false

namespace DocumentRules.Format

open DocumentRules.Text

def isLabelChar (c : Char) : Bool := isLatinAlphanumeric c || c == '-'

def isLabel (label : List Char) : Bool :=
  label.length ≤ 63 && label.all isLabelChar &&
    label.head?.any isLatinAlphanumeric && label.getLast?.any isLatinAlphanumeric

def isTopLabel (label : List Char) : Bool := 2 ≤ label.length && label.all isLatinLetter

/-- Reads labels from left to right. `label` holds the characters of the current one,
latest first; `several` tells whether a label came before it. -/
def isHostName (several : Bool) (label : List Char) : List Char → Bool
  | [] => several && isTopLabel label.reverse
  | c :: rest =>
      if c == '.' then isLabel label.reverse && isHostName true [] rest
      else isHostName several (c :: label) rest

/-- Signs that a mail name may hold beside letters and digits. -/
def mailSigns : List Char :=
  ['!', '#', '$', '%', '&', '\'', '*', '+', '/', '=', '?', '^', '_', Char.ofNat 96, '{', '|', '}',
    '~', '-']

def isMailChar (c : Char) : Bool := isLatinAlphanumeric c || mailSigns.contains c

/-- What follows the at sign, if a row of runs between points stands before it. -/
def afterMailName? : (inRun : Bool) → List Char → Option (List Char)
  | _, [] => none
  | inRun, c :: rest =>
      if isMailChar c then afterMailName? true rest
      else if !inRun then none
      else if c == '.' then afterMailName? false rest
      else if c == '@' then some rest
      else none

def isMailAddress (text : List Char) : Bool :=
  text.length ≤ 254 &&
    match afterMailName? false (lineOf text) with
    | some host => isHostName false [] host
    | none => false

def afterScheme? : List Char → Option (List Char)
  | 'h' :: 't' :: 't' :: 'p' :: ':' :: '/' :: '/' :: rest => some rest
  | 'h' :: 't' :: 't' :: 'p' :: 's' :: ':' :: '/' :: '/' :: rest => some rest
  | 'f' :: 't' :: 'p' :: ':' :: '/' :: '/' :: rest => some rest
  | _ => none

def isUserChar (c : Char) : Bool := !isSpace c && c != ':' && c != '@' && c != '/'

/-- What follows a user name with an optional password and the at sign after them. -/
def afterUser? (text : List Char) : Option (List Char) :=
  let afterName := text.dropWhile isUserChar
  if afterName.length == text.length then none
  else
    match afterName with
    | '@' :: rest => some rest
    | ':' :: secret =>
        match secret.dropWhile isUserChar with
        | '@' :: rest => some rest
        | _ => none
    | _ => none

def isAddressNumber (part : List Char) : Bool := isRun isAnyDigit part && part.length ≤ 3

def isNumericHost (host : List Char) : Bool :=
  let parts := cutAt '.' host
  parts.length == 4 && parts.all isAddressNumber

def isHost (host : List Char) : Bool :=
  host == "localhost".toList || isHostName false [] host || isNumericHost host

def endsHost (c : Char) : Bool := c == ':' || c == '/' || c == '?' || c == '#'

/-- A path, a query or a fragment without blanks, or nothing. -/
def isResource : List Char → Bool
  | [] => true
  | c :: rest => c != ':' && endsHost c && rest.all fun d => !isSpace d

/-- A resource, with the number of a service in front of it or without. -/
def isNumberedResource (text : List Char) : Bool :=
  match text with
  | ':' :: rest =>
      let number := rest.takeWhile isAnyDigit
      !number.isEmpty && number.length ≤ 5 && isResource (rest.drop number.length)
  | _ => isResource text

/-- A host and a resource, which may be numbered. -/
def isLocation (text : List Char) : Bool :=
  isHost (text.takeWhile fun c => !endsHost c) &&
    isNumberedResource (text.dropWhile fun c => !endsHost c)

def isWebAddress (text : List Char) : Bool :=
  match afterScheme? (lineOf text) with
  | none => false
  | some rest => isLocation rest || (afterUser? rest).any isLocation

end DocumentRules.Format
