import DocumentRules.Text.Case
import DocumentRules.Text.Word
import DocumentRules.Text.Blank

/-!
Search patterns as trees. A node either consumes one character of a set, tests the
place it stands at, or combines other nodes. How letter case and the character
classes are treated is fixed in each set, because a pattern can switch that inside
a group.
-/

set_option autoImplicit false

namespace DocumentRules.Pattern

open DocumentRules.Text

/-- How letter case is treated: not at all, for the Latin letters only, or in full. -/
inductive Fold where
  | exact
  | plain
  | full
  deriving DecidableEq, Repr

inductive CharClass where
  | digit
  | blank
  | word
  deriving DecidableEq, Repr

inductive Member where
  | single (code : Nat)
  | interval (low high : Nat)
  | ofClass (which : CharClass) (positive : Bool)
  deriving DecidableEq, Repr

structure CharSet where
  members : List Member
  negated : Bool
  fold : Fold
  /-- The classes hold seven-bit characters only. -/
  plainClasses : Bool
  deriving DecidableEq, Repr

inductive Anchor where
  | textStart
  | textEnd
  /-- The end of the text, or the place before a line feed that ends it. -/
  | lastLineEnd
  | lineStart
  | lineEnd
  | wordEdge (positive : Bool) (plain : Bool)
  deriving DecidableEq, Repr

inductive Mode where
  | greedy
  | reluctant
  | possessive
  deriving DecidableEq, Repr

inductive Node where
  | empty
  | char (set : CharSet)
  | anyChar (lineFeeds : Bool)
  | anchor (place : Anchor)
  | chain (first second : Node)
  | either (first second : Node)
  | capture (number : Nat) (body : Node)
  | recall (number : Nat) (fold : Fold)
  | choose (number : Nat) (present absent : Node)
  | look (behind : Option Nat) (positive : Bool) (body : Node)
  | atomic (body : Node)
  | repeated (mode : Mode) (least : Nat) (most : Option Nat) (body : Node)
  deriving DecidableEq, Repr

namespace CharClass

def holds (plain : Bool) (code : Nat) : CharClass → Bool
  | .digit => if plain then isPlainDigit code else isDigit code
  | .blank => if plain then isPlainBlank code else isBlank code
  | .word => if plain then isPlainWord code else isWord code

end CharClass

namespace Fold

def lower (fold : Fold) (code : Nat) : Nat :=
  match fold with
  | .exact => code
  | .plain => plainLower code
  | .full => lowerOf code

def cased (fold : Fold) (code : Nat) : Bool :=
  match fold with
  | .exact => false
  | .plain => isPlainLetter code
  | .full => isCased code

/-- The characters that count as the same letter as a lowercase one. -/
def partners (fold : Fold) (lowered : Nat) : List Nat :=
  match fold with
  | .exact => [lowered]
  | .plain => if 97 ≤ lowered && lowered ≤ 122 then [lowered, lowered - 32] else [lowered]
  | .full => (lowered :: lowerKin lowered).flatMap lowerSources

end Fold

def overlaps (low high first last : Nat) : Bool := low ≤ last && first ≤ high

/-- The last character of the basic plane. -/
def basicLast : Nat := 65535

/-- Some character of the interval has two cases. An interval that reaches beyond the basic
plane counts as if it had one. -/
def casedWithin (fold : Fold) (low high : Nat) : Bool :=
  match fold with
  | .exact => false
  | .plain => basicLast < high || overlaps low high 65 90 || overlaps low high 97 122
  | .full =>
      basicLast < high || overlaps low high 65 90 || overlaps low high 97 122 ||
        expandingIntervals.any (fun (first, last) => overlaps low high first last) ||
        (lowerRuns ++ upperRuns).any fun run =>
          let least := max low run.first
          let aligned := least + (run.step - (least - run.first) % run.step) % run.step
          decide (aligned ≤ min high run.last)

namespace Member

def cased (fold : Fold) : Member → Bool
  | .single code => fold.cased code
  | .interval low high => casedWithin fold low high
  | .ofClass .. => false

def holds (plainClasses : Bool) (code : Nat) : Member → Bool
  | .single own => own == code
  | .interval low high => low ≤ code && code ≤ high
  | .ofClass which positive => which.holds plainClasses code == positive

/-- Membership of a lowercase character when case does not matter. Beyond the basic plane a
member that does not stand alone is compared as it is, and an interval is asked for the
lowercase character and its uppercase form, whatever the fold. -/
def holdsFolded (fold : Fold) (plainClasses alone : Bool) (lowered : Nat)
    (member : Member) : Bool :=
  let folded := (fold.partners lowered).any fun code => member.holds plainClasses code
  match member with
  | .ofClass .. => member.holds plainClasses lowered
  | .single code => if alone || code ≤ basicLast then folded else lowered == code
  | .interval _ high =>
      folded || (basicLast < high && member.holds plainClasses (upperOf lowered))

end Member

namespace CharSet

/-- Case is ignored only when some member has two cases. -/
def folds (set : CharSet) : Bool :=
  match set.fold with
  | .exact => false
  | fold => set.members.any fun member => member.cased fold

def holds (set : CharSet) (c : Char) : Bool :=
  let found :=
    if set.folds then
      let lowered := set.fold.lower c.toNat
      set.members.any fun member =>
        let alone := set.members.all fun other => other == member
        member.holdsFolded set.fold set.plainClasses alone lowered
    else set.members.any fun member => member.holds set.plainClasses c.toNat
  found != set.negated

end CharSet

namespace Node

def ofList : List Node → Node
  | [] => .empty
  | [node] => node
  | node :: rest => .chain node (ofList rest)

def ofAlternatives : List Node → Node
  | [] => .empty
  | [node] => node
  | node :: rest => .either node (ofAlternatives rest)

def repeats : Node → Bool
  | .repeated .. => true
  | .chain first second => first.repeats || second.repeats
  | .either first second => first.repeats || second.repeats
  | .choose _ present absent => present.repeats || absent.repeats
  | .capture _ body => body.repeats
  | .look _ _ body => body.repeats
  | .atomic body => body.repeats
  | _ => false

end Node

end DocumentRules.Pattern
