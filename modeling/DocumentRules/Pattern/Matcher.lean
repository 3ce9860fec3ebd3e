import DocumentRules.Pattern.Syntax

/-!
Backtracking search. Matching a node from a place hands every place where the node
can end to the rest of the pattern, in the order of preference, until the rest
succeeds. Repetition stops as soon as a round consumes nothing, so a round either
shortens the text that is left or is the last one; the count of rounds is bounded
by that length. The search is total on every pattern and every text.
-/

set_option autoImplicit false

namespace DocumentRules.Pattern

open DocumentRules.Text

/-- A place in the text: what lies before it, nearest first, what follows, how many
characters lie before it, and the text of the groups matched so far, latest first. -/
structure Place where
  before : List Char
  after : List Char
  offset : Nat
  groups : List (Nat × List Char)
  deriving Repr

abbrev Follow := Place → Option Place

abbrev Matcher := Place → Follow → Option Place

namespace Place

def start (text : List Char) : Place := ⟨[], text, 0, []⟩

def group? (place : Place) (number : Nat) : Option (List Char) :=
  (place.groups.find? fun entry => entry.1 == number).map Prod.snd

def advance (place : Place) (c : Char) (rest : List Char) : Place :=
  { place with before := c :: place.before, after := rest, offset := place.offset + 1 }

def back? (place : Place) : Nat → Option Place
  | 0 => some place
  | count + 1 =>
      match place.before with
      | [] => none
      | c :: before =>
          back? { place with before := before, after := c :: place.after,
                             offset := place.offset - 1 } count

/-- Records the text between an earlier place and this one as a group. -/
def close (place : Place) (number : Nat) (opened : Place) : Place :=
  { place with
    groups := (number, opened.after.take (place.offset - opened.offset)) :: place.groups }

def wordBefore (plain : Bool) (place : Place) : Bool :=
  place.before.head?.any fun c => CharClass.word.holds plain c.toNat

def wordAfter (plain : Bool) (place : Place) : Bool :=
  place.after.head?.any fun c => CharClass.word.holds plain c.toNat

end Place

namespace Anchor

/-- Whether a place is the anchored one. An empty text has no word edge and no place that is
not a word edge. -/
def holds (place : Place) : Anchor → Bool
  | .textStart => place.before.isEmpty
  | .textEnd => place.after.isEmpty
  | .lastLineEnd => place.after.isEmpty || place.after == ['\n']
  | .lineStart => place.before.isEmpty || place.before.head? == some '\n'
  | .lineEnd => place.after.isEmpty || place.after.head? == some '\n'
  | .wordEdge positive plain =>
      !(place.before.isEmpty && place.after.isEmpty) &&
        ((place.wordBefore plain != place.wordAfter plain) == positive)

end Anchor

/-- Consumes a text character by character, with case treated as in the fold. -/
def consume (fold : Fold) : List Char → Place → Option Place
  | [], place => some place
  | wanted :: text, place =>
      match place.after with
      | [] => none
      | c :: rest =>
          if fold.lower wanted.toNat == fold.lower c.toNat then
            consume fold text (place.advance c rest)
          else none

def exactly (body : Matcher) : Nat → Matcher
  | 0, place, follow => follow place
  | count + 1, place, follow =>
      body place fun next => exactly body count next follow

def below (count : Nat) (most : Option Nat) : Bool :=
  match most with
  | none => true
  | some bound => count < bound

/-- Further rounds, as many as possible first. `last` is where the previous one began. -/
def greedily (body : Matcher) (most : Option Nat) : Nat → Nat → Option Nat → Matcher
  | 0, _, _, place, follow => follow place
  | rounds + 1, count, last, place, follow =>
      if below count most && last != some place.offset then
        match body place fun next =>
            greedily body most rounds (count + 1) (some place.offset) next follow with
        | some done => some done
        | none => follow place
      else follow place

/-- Further rounds, as few as possible first. -/
def reluctantly (body : Matcher) (most : Option Nat) : Nat → Nat → Option Nat → Matcher
  | 0, _, _, place, follow => follow place
  | rounds + 1, count, last, place, follow =>
      match follow place with
      | some done => some done
      | none =>
          if below count most && last != some place.offset then
            body place fun next =>
              reluctantly body most rounds (count + 1) (some place.offset) next follow
          else none

/-- Further rounds that are never given back. -/
def possessively (body : Matcher) (most : Option Nat) : Nat → Nat → Option Nat → Place → Place
  | 0, _, _, place => place
  | rounds + 1, count, last, place =>
      if below count most && last != some place.offset then
        match body place some with
        | some next => possessively body most rounds (count + 1) (some place.offset) next
        | none => place
      else place

def exactlyOnce (body : Matcher) : Nat → Follow
  | 0, place => some place
  | count + 1, place => (body place some).bind (exactlyOnce body count)

def repeating (body : Matcher) (mode : Mode) (least : Nat) (most : Option Nat) : Matcher :=
  fun place follow =>
    match mode with
    | .greedy =>
        exactly body least place fun next =>
          greedily body most (next.after.length + 2) least none next follow
    | .reluctant =>
        exactly body least place fun next =>
          reluctantly body most (next.after.length + 2) least none next follow
    | .possessive =>
        match exactlyOnce body least place with
        | some next =>
            follow (possessively body most (next.after.length + 2) least none next)
        | none => none

namespace Node

def run : Node → Matcher
  | .empty => fun place follow => follow place
  | .char set => fun place follow =>
      match place.after with
      | [] => none
      | c :: rest => if set.holds c then follow (place.advance c rest) else none
  | .anyChar lineFeeds => fun place follow =>
      match place.after with
      | [] => none
      | c :: rest =>
          if lineFeeds || c != '\n' then follow (place.advance c rest) else none
  | .anchor wanted => fun place follow =>
      if wanted.holds place then follow place else none
  | .chain first second => fun place follow =>
      first.run place fun next => second.run next follow
  | .either first second => fun place follow =>
      match first.run place follow with
      | some done => some done
      | none => second.run place follow
  | .capture number body => fun place follow =>
      body.run place fun next => follow (next.close number place)
  | .recall number fold => fun place follow =>
      match place.group? number with
      | some text => (consume fold text place).bind follow
      | none => none
  | .choose number present absent => fun place follow =>
      if (place.group? number).isSome then present.run place follow
      else absent.run place follow
  | .look behind positive body => fun place follow =>
      let found := (place.back? (behind.getD 0)).bind fun origin => body.run origin some
      match found, positive with
      | some done, true => follow { place with groups := done.groups }
      | none, false => follow place
      | _, _ => none
  | .atomic body => fun place follow =>
      match body.run place some with
      | some next => follow next
      | none => none
  | .repeated mode least most body => repeating body.run mode least most

def searchFrom (node : Node) : (before after : List Char) → (offset : Nat) → Bool
  | before, [], offset => (node.run ⟨before, [], offset, []⟩ some).isSome
  | before, c :: rest, offset =>
      (node.run ⟨before, c :: rest, offset, []⟩ some).isSome ||
        searchFrom node (c :: before) rest (offset + 1)

def search (node : Node) (text : List Char) : Bool := node.searchFrom [] text 0

end Node

end DocumentRules.Pattern
