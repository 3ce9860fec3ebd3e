import DocumentRules.Number.Integer
import DocumentRules.Pattern.Syntax

/-!
Reading the text of a search pattern. The text is first cut into tokens, a token
being a character or a backslash with the character after it. The reader then walks
the tokens once; the only place where it goes back is a brace that turns out not to
open a repetition count. Each step of the reader consumes a token, so a small
multiple of the number of tokens bounds its depth.

Two things are not followed: what character a name stands for, and groups that lie in
one another beyond a depth. The reader gives up there with an error of its own, which
tells nothing about the pattern.
-/

set_option autoImplicit false

namespace DocumentRules.Pattern

open DocumentRules.Text

inductive PatternError where
  | danglingBackslash
  | badEscape
  | unknownReference
  | openReference
  | unterminatedSet
  | badInterval
  | nothingToRepeat
  | repeatedRepetition
  | unwantedRepetition
  | badBounds
  | hugeBound
  /-- A bound that is written with too many digits to be read. -/
  | tooManyDigits (count : Nat)
  | badGroupName
  | duplicateGroupName
  | unterminatedGroup
  | unbalancedParenthesis
  | unknownExtension
  | badFlags
  | misplacedFlags
  | conflictingFlags
  | tooManyBranches
  | unboundedLookBehind
  /-- A character is given by its name. -/
  | characterName
  | tooDeep
  deriving DecidableEq, Repr

inductive Token where
  | char (c : Char)
  | escape (c : Char)
  deriving DecidableEq, Repr

/-- A backslash at the very end of the text is refused. -/
def tokens : List Char → Except PatternError (List Token)
  | [] => .ok []
  | ['\\'] => .error .danglingBackslash
  | '\\' :: c :: rest => do
      let later ← tokens rest
      return .escape c :: later
  | c :: rest => do
      let later ← tokens rest
      return .char c :: later

structure Flags where
  ignoreCase : Bool := false
  multiline : Bool := false
  dotAll : Bool := false
  verbose : Bool := false
  /-- Classes and case know seven-bit characters only. -/
  plain : Bool := false
  /-- Nothing in the pattern may be repeated. -/
  unrepeated : Bool := false
  deriving DecidableEq, Repr

/-- The least and, if there is one, the greatest length of what a node matches. -/
structure Width where
  least : Nat
  most : Option Nat
  deriving DecidableEq, Repr

namespace Width

def fixed (length : Nat) : Width := ⟨length, some length⟩

def plus (left right : Width) : Width :=
  ⟨left.least + right.least, do return (← left.most) + (← right.most)⟩

def either (left right : Width) : Width :=
  ⟨min left.least right.least, do return max (← left.most) (← right.most)⟩

def times (width : Width) (least : Nat) (most : Option Nat) : Width where
  least := width.least * least
  most :=
    match width.most, most with
    | some 0, _ => some 0
    | some length, some bound => some (length * bound)
    | _, _ => none

end Width

/-- Nodes in a row together with their width. -/
structure Part where
  nodes : List Node
  width : Width

def Part.node (part : Part) : Node := .ofList part.nodes

inductive PieceKind where
  | anchor
  | repetition
  | other
  deriving DecidableEq

/-- What a repetition sign after it would repeat. -/
structure Piece where
  part : Part
  kind : PieceKind

/-- The reader's state: what is left to read, the groups opened and closed so far, and the
flags that were set for the whole pattern. -/
structure Reading where
  rest : List Token
  opened : Nat := 0
  closed : List (Nat × Width) := []
  names : List (String × Nat) := []
  /-- Inside a look-behind, the number of groups that were open to reference before it. -/
  behindLimit : Option Nat := none
  flags : Flags := {}
  fullRequested : Bool := false
  /-- Group numbers that conditions ask about. -/
  conditions : List Nat := []
  /-- Some look-behind has no length of its own. -/
  unboundedBehind : Bool := false
  /-- How many groups lie around the place. -/
  level : Nat := 0

abbrev Reader := StateT Reading (Except PatternError)

namespace Reader

def peek : Reader (Option Token) := do return (← get).rest.head?

def next : Reader (Option Token) := do
  match (← get).rest with
  | [] => return none
  | token :: rest =>
      modify fun state => { state with rest := rest }
      return some token

def accept (c : Char) : Reader Bool := do
  match (← get).rest with
  | .char found :: rest =>
      if found == c then
        modify fun state => { state with rest := rest }
        return true
      else return false
  | _ => return false

def refuse {α : Type} (error : PatternError) : Reader α := throw error

def isPlainCharWith (test : Nat → Bool) : Token → Bool
  | .char c => test c.toNat
  | .escape _ => false

def charOf : Token → Char
  | .char c => c
  | .escape c => c

def takeWhileUpTo (limit : Nat) (test : Nat → Bool) : Reader (List Char) := do
  let taken := ((← get).rest.take limit).takeWhile (isPlainCharWith test)
  modify fun state => { state with rest := state.rest.drop taken.length }
  return taken.map charOf

def takeAllWhile (test : Nat → Bool) : Reader (List Char) := do
  takeWhileUpTo (← get).rest.length test

/-- The spelling of tokens up to a closing character, which is consumed. -/
def takeUntil (closing : Char) (error : PatternError := .badGroupName) : Reader (List Char) := do
  let rest := (← get).rest
  let taken := rest.takeWhile fun token => token != .char closing
  if taken.length == rest.length || taken.isEmpty then refuse error
  else
    modify fun state => { state with rest := rest.drop (taken.length + 1) }
    return taken.flatMap fun token =>
      match token with
      | .char c => [c]
      | .escape c => ['\\', c]

def isOctalDigit (code : Nat) : Bool := 48 ≤ code && code ≤ 55

def isHexDigit (code : Nat) : Bool := (hexDigitValue? code).isSome

def isPatternBlank (c : Char) : Bool := isPlainBlank c.toNat

def valueIn (base : Nat) (digits : List Char) : Nat :=
  digits.foldl (fun value c => value * base + (hexDigitValue? c.toNat).getD 0) 0

def hexCode (count : Nat) : Reader Nat := do
  let digits ← takeWhileUpTo count isHexDigit
  if digits.length == count then return valueIn 16 digits else refuse .badEscape

def controlCode? (c : Char) : Option Nat :=
  match c with
  | 'a' => some 7
  | 'f' => some 12
  | 'n' => some 10
  | 'r' => some 13
  | 't' => some 9
  | 'v' => some 11
  | '\\' => some 92
  | _ => none

def classOf? (c : Char) : Option Member :=
  match c with
  | 'd' => some (.ofClass .digit true)
  | 'D' => some (.ofClass .digit false)
  | 's' => some (.ofClass .blank true)
  | 'S' => some (.ofClass .blank false)
  | 'w' => some (.ofClass .word true)
  | 'W' => some (.ofClass .word false)
  | _ => none

/-- The name of a character in braces. What it stands for is not known here. -/
def characterName : Reader Nat := do
  if ← accept '{' then
    let _ ← takeUntil '}' .badEscape
    refuse .characterName
  else refuse .badEscape

/-- Escapes that give one character by its code or name and read the same everywhere. -/
def codedEscape (c : Char) : Reader Nat := do
  match c with
  | 'x' => hexCode 2
  | 'u' => hexCode 4
  | 'U' =>
      let code ← hexCode 8
      if code ≤ 1114111 then return code else refuse .badEscape
  | 'N' => characterName
  | _ =>
      if isPlainLetter c.toNat || isPlainDigit c.toNat then refuse .badEscape
      else return c.toNat

def foldOf (flags : Flags) : Fold :=
  if flags.ignoreCase then (if flags.plain then .plain else .full) else .exact

def setNode (flags : Flags) (members : List Member) (negated : Bool) : Node :=
  .char ⟨members, negated, foldOf flags, flags.plain⟩

def setPiece (flags : Flags) (members : List Member) (negated : Bool) : Piece :=
  ⟨⟨[setNode flags members negated], .fixed 1⟩, .other⟩

def literalPiece (flags : Flags) (code : Nat) : Piece := setPiece flags [.single code] false

def anchorPiece (anchor : Anchor) : Piece := ⟨⟨[.anchor anchor], .fixed 0⟩, .anchor⟩

/-- An escape inside a set: a character, or a whole class. -/
def setEscape (c : Char) : Reader Member := do
  if c == 'b' then return .single 8
  else
    match controlCode? c, classOf? c with
    | some code, _ => return .single code
    | none, some found => return found
    | none, none =>
        if isOctalDigit c.toNat then
          let more ← takeWhileUpTo 2 isOctalDigit
          let code := valueIn 8 (c :: more)
          if 255 < code then refuse .badEscape else return .single code
        else return .single (← codedEscape c)

def setItem (token : Token) : Reader Member :=
  match token with
  | .char c => return .single c.toNat
  | .escape c => setEscape c

/-- The members of a set after its opening bracket, up to the closing one. -/
def setMembers : Nat → List Member → Reader (List Member)
  | 0, _ => refuse .tooDeep
  | fuel + 1, members => do
      match ← next with
      | none => refuse .unterminatedSet
      | some token =>
          if token == .char ']' && !members.isEmpty then return members.reverse
          else
            let low ← setItem token
            if ← accept '-' then
              match ← next with
              | none => refuse .unterminatedSet
              | some last =>
                  if last == .char ']' then return (.single 45 :: low :: members).reverse
                  else
                    match low, ← setItem last with
                    | .single first, .single final =>
                        if final < first then refuse .badInterval
                        else setMembers fuel (.interval first final :: members)
                    | _, _ => refuse .badInterval
            else setMembers fuel (low :: members)

def checkClosed (number : Nat) : Reader Width := do
  match (← get).closed.lookup number with
  | some width => return width
  | none => refuse .openReference

/-- Inside a look-behind only groups that were closed before it may be referred to. -/
def checkBehind (number : Nat) : Reader Unit := do
  match (← get).behindLimit with
  | none => return ()
  | some limit =>
      let _ ← checkClosed number
      if limit ≤ number then refuse .openReference else return ()

def recallPiece (flags : Flags) (number : Nat) : Reader Piece := do
  let width ← checkClosed number
  checkBehind number
  return ⟨⟨[.recall number (foldOf flags)], width⟩, .other⟩

/-- A backslash and a digit other than zero: a code in octal if three octal digits stand
there, else a reference to a group. -/
def numberEscape (flags : Flags) (c : Char) : Reader Piece := do
  let second ← takeWhileUpTo 1 isPlainDigit
  let third ←
    if isOctalDigit c.toNat && !second.isEmpty && second.all (fun d => isOctalDigit d.toNat) then
      takeWhileUpTo 1 isOctalDigit
    else pure []
  if !third.isEmpty then
    let code := valueIn 8 (c :: second ++ third)
    if 255 < code then refuse .badEscape else return literalPiece flags code
  else
    let number := valueIn 10 (c :: second)
    if number ≤ (← get).opened then recallPiece flags number else refuse .unknownReference

def escapePiece (flags : Flags) (c : Char) : Reader Piece := do
  match classOf? c, controlCode? c with
  | some found, _ => return setPiece flags [found] false
  | none, some code => return literalPiece flags code
  | none, none =>
      match c with
      | 'A' => return anchorPiece .textStart
      | 'Z' => return anchorPiece .textEnd
      | 'b' => return anchorPiece (.wordEdge true flags.plain)
      | 'B' => return anchorPiece (.wordEdge false flags.plain)
      | '0' =>
          let more ← takeWhileUpTo 2 isOctalDigit
          return literalPiece flags (valueIn 8 more)
      | _ =>
          if isPlainDigit c.toNat then numberEscape flags c
          else return literalPiece flags (← codedEscape c)

/-- Counts from here on are refused. -/
def boundLimit : Nat := 4294967295

/-- A count; none stands for zero. -/
def bound (digits : List Char) : Reader Nat :=
  if Number.digitLimit < digits.length then refuse (.tooManyDigits digits.length)
  else if boundLimit ≤ valueIn 10 digits then refuse .hugeBound
  else return valueIn 10 digits

/-- The counts of a repetition sign; none if an opening brace stands for itself. -/
def bounds (sign : Char) : Reader (Option (Nat × Option Nat)) := do
  match sign with
  | '?' => return some (0, some 1)
  | '*' => return some (0, none)
  | '+' => return some (1, none)
  | _ =>
      let here := (← get).rest
      if here.head? == some (.char '}') then return none
      else
        let low ← takeAllWhile isPlainDigit
        let high ← if ← accept ',' then takeAllWhile isPlainDigit else pure low
        if ← accept '}' then
          let least ← bound low
          let most ← if high.isEmpty then pure none else some <$> bound high
          if most.any (fun most => most < least) then refuse .badBounds
          else return some (least, most)
        else
          modify fun state => { state with rest := here }
          return none

def repeatPiece (least : Nat) (most : Option Nat) (piece : Piece) : Reader Piece := do
  match piece.kind with
  | .anchor => refuse .nothingToRepeat
  | .repetition => refuse .repeatedRepetition
  | .other =>
      let mode ← if ← accept '?' then pure Mode.reluctant
        else if ← accept '+' then pure Mode.possessive
        else pure Mode.greedy
      return ⟨⟨[.repeated mode least most piece.part.node], piece.part.width.times least most⟩,
        .repetition⟩

def sumParts (parts : List Part) : Part :=
  ⟨parts.flatMap Part.nodes, parts.foldl (fun width part => width.plus part.width) (.fixed 0)⟩

/-- Leaves that are certain to match alike. -/
def sameLeaf : Node → Node → Bool
  | .char left, .char right => left == right
  | .anyChar left, .anyChar right => left == right
  | .anchor left, .anchor right => left == right
  | .recall left leftFold, .recall right rightFold => left == right && leftFold == rightFold
  | _, _ => false

/-- The leaves with which every alternative begins. -/
def sharedFront : List Node → List (List Node) → List Node
  | [], _ => []
  | node :: rest, others =>
      if others.all fun nodes => nodes.head?.any (sameLeaf node) then
        node :: sharedFront rest (others.map List.tail)
      else []

/-- One set for alternatives that are single characters of sets without negation. -/
def sharedSet? : List (List Node) → Option CharSet
  | [[.char set]] => if set.negated then none else some set
  | [.char set] :: rest =>
      match sharedSet? rest with
      | some later =>
          if !set.negated && set.fold == later.fold && set.plainClasses == later.plainClasses then
            some { set with members := set.members ++ later.members }
          else none
      | none => none
  | _ => none

/-- Alternatives share what they begin with, and single characters become one set. -/
def joinAlternatives (parts : List Part) : Part :=
  match parts with
  | [] => ⟨[], .fixed 0⟩
  | [part] => part
  | part :: others =>
      let width := others.foldl (fun width other => width.either other.width) part.width
      let front := sharedFront part.nodes (others.map Part.nodes)
      let tails := parts.map fun other => other.nodes.drop front.length
      let last :=
        match sharedSet? tails with
        | some set => Node.char set
        | none => Node.ofAlternatives (tails.map Node.ofList)
      ⟨front ++ [last], width⟩

def isNameStart (c : Char) : Bool :=
  c == '_' || (isAlphanumeric c.toNat && !isDigit c.toNat)

def isName (name : List Char) : Bool :=
  match name with
  | [] => false
  | first :: rest => isNameStart first && rest.all fun c => isWord c.toNat

def openGroup (name : Option (List Char)) : Reader Nat := do
  let state ← get
  let number := state.opened + 1
  match name with
  | none =>
      set { state with opened := number }
      return number
  | some chars =>
      let text := String.ofList chars
      if !isName chars then refuse .badGroupName
      else if (state.names.lookup text).isSome then refuse .duplicateGroupName
      else
        set { state with opened := number, names := (text, number) :: state.names }
        return number

def namedGroup (name : List Char) : Reader Nat := do
  if !isName name then refuse .badGroupName
  else
    match (← get).names.lookup (String.ofList name) with
    | some number => return number
    | none => refuse .unknownReference

/-- The group a condition asks about, by name or by number. -/
def conditionGroup (name : List Char) : Reader Nat := do
  if isName name then namedGroup name
  else
    match Number.readInteger 10 name with
    | some number =>
        if number ≤ 0 then refuse .badGroupName
        else
          modify fun state => { state with conditions := number.toNat :: state.conditions }
          return number.toNat
    | none => refuse .badGroupName

inductive FlagLetter where
  | ignoreCase
  | multiline
  | dotAll
  | verbose
  | plain
  | full
  | unrepeated
  deriving DecidableEq

def flagLetter? (token : Token) : Option FlagLetter :=
  match token with
  | .char 'i' => some .ignoreCase
  | .char 'm' => some .multiline
  | .char 's' => some .dotAll
  | .char 'x' => some .verbose
  | .char 'a' => some .plain
  | .char 'u' => some .full
  | .char 't' => some .unrepeated
  | _ => none

def FlagLetter.isType : FlagLetter → Bool
  | .plain => true
  | .full => true
  | _ => false

def Flags.turn (flags : Flags) (on : Bool) : FlagLetter → Flags
  | .ignoreCase => { flags with ignoreCase := on }
  | .multiline => { flags with multiline := on }
  | .dotAll => { flags with dotAll := on }
  | .verbose => { flags with verbose := on }
  | .plain => { flags with plain := on }
  | .full => { flags with plain := !on }
  | .unrepeated => { flags with unrepeated := on }

/-- Flag letters up to a character that ends them, which is returned. -/
def flagRun (ends : List Char) : Nat → Token → List FlagLetter →
    Reader (List FlagLetter × Char)
  | 0, _, _ => refuse .tooDeep
  | fuel + 1, token, letters =>
      match flagLetter? token with
      | none => refuse .badFlags
      | some letter => do
          let letters := letters ++ [letter]
          match ← next with
          | some (.char c) =>
              if ends.contains c then return (letters, c)
              else flagRun ends fuel (.char c) letters
          | _ => refuse .badFlags

/-- Both letters that choose the extent of the classes. -/
def clash (letters : List FlagLetter) : Bool :=
  letters.any FlagLetter.isType &&
    letters.any fun letter => letter.isType &&
      letters.any fun other => other.isType && letter != other

inductive FlagEffect where
  | everywhere (letters : List FlagLetter)
  | inGroup (added removed : List FlagLetter)

def flagEffect (first : Token) : Reader FlagEffect := do
  let fuel := (← get).rest.length + 1
  let (added, ending) ←
    if first == .char '-' then pure ([], '-') else flagRun [')', '-', ':'] fuel first []
  if clash added then refuse .badFlags
  else if ending == ')' then return .everywhere added
  else if added.contains .unrepeated then refuse .badFlags
  else if ending == ':' then return .inGroup added []
  else
    match ← next with
    | none => refuse .badFlags
    | some token =>
        let (removed, _) ← flagRun [':'] fuel token []
        if removed.any FlagLetter.isType then refuse .badFlags
        else if removed.contains .unrepeated then refuse .badFlags
        else if added.any removed.contains then refuse .badFlags
        else return .inGroup added removed

def applyFlags (flags : Flags) (added removed : List FlagLetter) : Flags :=
  removed.foldl (fun flags letter => Flags.turn flags false letter)
    (added.foldl (fun flags letter => Flags.turn flags true letter) flags)

def requestFlags (letters : List FlagLetter) : Reader Unit :=
  modify fun state =>
    { state with
      flags := (letters.filter fun letter => letter != .full).foldl
        (fun flags letter => Flags.turn flags true letter) state.flags
      fullRequested := state.fullRequested || letters.any fun letter => letter == .full }

def closeGroup (number : Nat) (width : Width) : Reader Unit :=
  modify fun state => { state with closed := (number, width) :: state.closed }

def expectClose : Reader Unit := do
  if ← accept ')' then return () else refuse .unterminatedGroup

/-- Drops the rest of a comment that a number sign began. -/
def skipLine : Reader Unit :=
  modify fun state =>
    { state with rest := (state.rest.dropWhile fun token => token != .char '\n').drop 1 }

/-- The length of a look-behind. One without a length is refused when the whole pattern has been
read. -/
def lookWidth (behind : Bool) (width : Width) : Reader (Option Nat) := do
  if behind then
    if width.most != some width.least || boundLimit < width.least then
      modify fun state => { state with unboundedBehind := true }
    return some width.least
  else return none

def deepest : Nat := 100

/-- Reads what lies in a group. -/
def inner {α : Type} (contents : Reader α) : Reader α := do
  let level := (← get).level
  if deepest ≤ level then refuse .tooDeep
  else
    modify fun state => { state with level := level + 1 }
    let result ← contents
    modify fun state => { state with level := level }
    return result

mutual

/-- Alternatives up to a closing parenthesis or the end. -/
def alternatives : Nat → Flags → (top : Bool) → Reader Part
  | 0, _, _ => refuse .tooDeep
  | fuel + 1, flags, top => do
      let first ← row fuel flags top []
      moreAlternatives fuel flags top [first]

def moreAlternatives : Nat → Flags → (top : Bool) → List Part → Reader Part
  | 0, _, _, _ => refuse .tooDeep
  | fuel + 1, flags, top, parts => do
      if ← accept '|' then
        let state ← get
        let part ← row fuel (if top then state.flags else flags) false []
        moreAlternatives fuel flags top (parts ++ [part])
      else return joinAlternatives parts

/-- Pieces in a row, latest first. Flags for the whole pattern may stand at its front only. -/
def row : Nat → Flags → (front : Bool) → List Piece → Reader Part
  | 0, _, _, _ => refuse .tooDeep
  | fuel + 1, flags, front, pieces => do
      match ← peek with
      | none => return sumParts (pieces.reverse.map Piece.part)
      | some token =>
          if token == .char '|' || token == .char ')' then
            return sumParts (pieces.reverse.map Piece.part)
          else
            let _ ← next
            match token with
            | .escape c => do row fuel flags front ((← escapePiece flags c) :: pieces)
            | .char c =>
                if flags.verbose && isPatternBlank c then row fuel flags front pieces
                else if flags.verbose && c == '#' then do
                  skipLine
                  row fuel flags front pieces
                else
                  match c with
                  | '[' => do
                      let negated ← accept '^'
                      let state ← get
                      let members ← setMembers (state.rest.length + 1) []
                      row fuel flags front (setPiece flags members negated :: pieces)
                  | '.' =>
                      let piece : Piece := ⟨⟨[.anyChar flags.dotAll], .fixed 1⟩, .other⟩
                      row fuel flags front (piece :: pieces)
                  | '^' =>
                      let anchor := if flags.multiline then Anchor.lineStart else .textStart
                      row fuel flags front (anchorPiece anchor :: pieces)
                  | '$' =>
                      let anchor := if flags.multiline then Anchor.lineEnd else .lastLineEnd
                      row fuel flags front (anchorPiece anchor :: pieces)
                  | '(' => group fuel flags front pieces
                  | _ =>
                      if c == '*' || c == '+' || c == '?' || c == '{' then do
                        match ← bounds c with
                        | none => row fuel flags front (literalPiece flags c.toNat :: pieces)
                        | some (least, most) =>
                            match pieces with
                            | [] => refuse .nothingToRepeat
                            | piece :: earlier => do
                                let piece ← repeatPiece least most piece
                                row fuel flags front (piece :: earlier)
                      else row fuel flags front (literalPiece flags c.toNat :: pieces)

/-- What follows an opening parenthesis, and then the rest of the row. -/
def group : Nat → Flags → (front : Bool) → List Piece → Reader Part
  | 0, _, _, _ => refuse .tooDeep
  | fuel + 1, flags, front, pieces => do
      if ← accept '?' then
        match ← next with
        | none => refuse .unknownExtension
        | some token =>
            match token with
            | .char 'P' =>
                if ← accept '<' then
                  let name ← takeUntil '>'
                  if !isName name then refuse .badGroupName
                  else captured fuel flags front pieces (some name)
                else if ← accept '=' then
                  let number ← namedGroup (← takeUntil ')')
                  row fuel flags front ((← recallPiece flags number) :: pieces)
                else refuse .unknownExtension
            | .char ':' => enclosed fuel flags flags front pieces
            | .char '#' => do
                let state ← get
                let after := state.rest.dropWhile fun token => token != .char ')'
                if after.isEmpty then refuse .unterminatedGroup
                else
                  modify fun state => { state with rest := after.drop 1 }
                  row fuel flags front pieces
            | .char '=' => looked fuel flags front pieces false true
            | .char '!' => looked fuel flags front pieces false false
            | .char '<' =>
                if ← accept '=' then looked fuel flags front pieces true true
                else if ← accept '!' then looked fuel flags front pieces true false
                else refuse .unknownExtension
            | .char '(' => conditional fuel flags front pieces
            | .char '>' => do
                let part ← inner (alternatives fuel flags false)
                expectClose
                let piece : Piece := ⟨⟨[.atomic part.node], part.width⟩, .other⟩
                row fuel flags front (piece :: pieces)
            | token =>
                if (flagLetter? token).isSome || token == .char '-' then
                  match ← flagEffect token with
                  | .everywhere letters =>
                      if !front || !pieces.isEmpty then refuse .misplacedFlags
                      else
                        requestFlags letters
                        let state ← get
                        row fuel state.flags front pieces
                  | .inGroup added removed =>
                      enclosed fuel flags (applyFlags flags added removed) front pieces
                else refuse .unknownExtension
      else captured fuel flags front pieces none

/-- A group whose text is kept under the next number. -/
def captured : Nat → Flags → (front : Bool) → List Piece → Option (List Char) → Reader Part
  | 0, _, _, _, _ => refuse .tooDeep
  | fuel + 1, flags, front, pieces, name => do
      let number ← openGroup name
      let part ← inner (alternatives fuel flags false)
      expectClose
      closeGroup number part.width
      let piece : Piece := ⟨⟨[.capture number part.node], part.width⟩, .other⟩
      row fuel flags front (piece :: pieces)

/-- A group that only encloses, with flags of its own. -/
def enclosed : Nat → (outer own : Flags) → (front : Bool) → List Piece → Reader Part
  | 0, _, _, _, _ => refuse .tooDeep
  | fuel + 1, outer, own, front, pieces => do
      let part ← inner (alternatives fuel own false)
      expectClose
      row fuel outer front (⟨part, .other⟩ :: pieces)

def looked : Nat → Flags → (front : Bool) → List Piece → (behind positive : Bool) → Reader Part
  | 0, _, _, _, _, _ => refuse .tooDeep
  | fuel + 1, flags, front, pieces, behind, positive => do
      let outerLimit := (← get).behindLimit
      if behind && outerLimit.isNone then
        modify fun state => { state with behindLimit := some (state.opened + 1) }
      let part ← inner (alternatives fuel flags false)
      modify fun state => { state with behindLimit := outerLimit }
      expectClose
      let width ← lookWidth behind part.width
      let piece : Piece := ⟨⟨[.look width positive part.node], .fixed 0⟩, .other⟩
      row fuel flags front (piece :: pieces)

def conditional : Nat → Flags → (front : Bool) → List Piece → Reader Part
  | 0, _, _, _ => refuse .tooDeep
  | fuel + 1, flags, front, pieces => do
      let number ← conditionGroup (← takeUntil ')')
      checkBehind number
      let present ← inner (row fuel flags false [])
      let absent ←
        if ← accept '|' then some <$> inner (row fuel flags false []) else pure none
      if (← peek) == some (.char '|') then refuse .tooManyBranches
      else
        expectClose
        let missing := absent.getD ⟨[], .fixed 0⟩
        let piece : Piece :=
          ⟨⟨[.choose number present.node missing.node], present.width.either missing.width⟩, .other⟩
        row fuel flags front (piece :: pieces)

end

/-- A whole pattern: nothing may be left over, and every group that a condition asks about
has to exist. -/
def whole (fuel : Nat) (flags : Flags) : Reader Node := do
  let part ← alternatives fuel flags true
  let state ← get
  if state.flags.plain && state.fullRequested then refuse .conflictingFlags
  else if !state.rest.isEmpty then refuse .unbalancedParenthesis
  else if state.conditions.any (fun number => state.opened < number) then refuse .unknownReference
  else if state.flags.unrepeated && part.node.repeats then refuse .unwantedRepetition
  else if state.unboundedBehind then refuse .unboundedLookBehind
  else return part.node

end Reader

def read (text : List Char) (flags : Flags) : Except PatternError Node := do
  let input ← tokens text
  let fuel := 5 * input.length + 10
  let (node, _) ← (Reader.whole fuel flags).run { rest := input, flags := flags }
  return node

end DocumentRules.Pattern
