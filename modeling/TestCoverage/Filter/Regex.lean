/-
  TestCoverage.Filter.Regex

  Regular expressions, basic and extended.

  An expression leads from a place in a text to the places where a match may end, the
  preferred ones first.  The match that counts begins as early as possible, and of those
  that begin there it is the longest.
-/
import TestCoverage.Text.CharSet

namespace TestCoverage.Filter

/-- A regular expression. -/
inductive Regex where
  | nothing
  | one (set : CharSet)
  | start
  | finish
  /-- at the beginning of a line of the text -/
  | lineStart
  /-- at the end of a line of the text -/
  | lineFinish
  /-- between a word character and something else, on the sides that are asked for -/
  | edge (beginsWord endsWord : Bool)
  /-- not between a word character and something else -/
  | noEdge
  | group (number : Nat) (inner : Regex)
  /-- what a group has matched -/
  | again (number : Nat)
  | sequence (first second : Regex)
  | either (first second : Regex)
  | repeated (low : Nat) (high : Option Nat) (inner : Regex)
deriving Repr

/-- A place in a text: how many characters are before it, the last of them, those behind it,
    and what the groups have matched. -/
structure Place where
  index : Nat := 0
  previous : Option Char := none
  rest : List Char
  groups : List (Nat × List Char) := []
deriving DecidableEq, Repr

/-! ## Matching -/

namespace Place

/-- The places, of those with the same index only the first. -/
def distinct (places : List Place) : List Place :=
  places.foldl (fun kept place =>
    if kept.any (·.index = place.index) then kept else kept ++ [place]) []

/-- The place one character further, if that character will do. -/
def step (accepts : Char → Bool) (place : Place) : List Place :=
  match place.rest with
  | [] => []
  | c :: rest =>
    if accepts c then [{ place with index := place.index + 1, previous := some c, rest }]
    else []

/-- The place behind a text, if that stands here. -/
def skip (fold : Bool) : List Char → Place → List Place
  | [], place => [place]
  | c :: text, place =>
    (place.step ((CharSet.exactly c).accepts fold)).flatMap (skip fold text)

/-- The place with what a group has matched from an earlier place. -/
def close (number : Nat) (opened place : Place) : Place :=
  let text := opened.rest.take (place.index - opened.index)
  { place with groups := (number, text) :: place.groups.filter (·.1 ≠ number) }

/-- The text that a group has matched. -/
def textOf (place : Place) (number : Nat) : List Char :=
  ((place.groups.find? (·.1 = number)).map (·.2)).getD []

/-- A word begins here, and a word ends here. -/
def edges (place : Place) : Bool × Bool :=
  let before := place.previous.any CharSet.isWord
  let behind := place.rest.head?.any CharSet.isWord
  (behind && !before, before && !behind)

/-- The places behind repetitions, from the places behind those so far.  More repetitions are
    preferred.  A repetition that matches nothing counts only while there are too few. -/
def repeats (step : Place → List Place) :
    Nat → Nat → Option Nat → List Place → List Place
  | 0, low, _, places => if low = 0 then places else []
  | bound + 1, low, high, places =>
    let enough := if low = 0 then places else []
    if places.isEmpty ∨ high = some 0 then enough
    else
      let next := places.flatMap fun place =>
        (step place).filter fun other => place.index < other.index || 0 < low
      repeats step bound (low - 1) (high.map (· - 1)) (distinct next) ++ enough

end Place

namespace Regex

/-- The places where a match from the given place may end. -/
def ends (fold : Bool) : Regex → Place → List Place
  | nothing, place => [place]
  | one set, place => place.step (set.accepts fold)
  | start, place => if place.index = 0 then [place] else []
  | finish, place => if place.rest.isEmpty then [place] else []
  | lineStart, place => if place.previous.all (· = '\n') then [place] else []
  | lineFinish, place => if place.rest.head?.all (· = '\n') then [place] else []
  | edge beginsWord endsWord, place =>
    if (beginsWord ∧ place.edges.1) ∨ (endsWord ∧ place.edges.2) then [place] else []
  | noEdge, place => if place.edges = (false, false) then [place] else []
  | group number inner, place => (inner.ends fold place).map (place.close number)
  | again number, place => place.skip fold (place.textOf number)
  | sequence first second, place =>
    Place.distinct ((first.ends fold place).flatMap (second.ends fold))
  | either first second, place =>
    Place.distinct (first.ends fold place ++ second.ends fold place)
  | repeated low high inner, place =>
    Place.distinct
      (Place.repeats (inner.ends fold) (place.rest.length + low + 1) low high [place])

/-- A match: the place where it begins, and the place where it ends. -/
structure Match where
  opened : Place
  closed : Place
deriving Repr

/-- The text of a match. -/
def Match.text (found : Match) : List Char :=
  found.opened.rest.take (found.closed.index - found.opened.index)

/-- The match from a place: the longest one, of those that will do. -/
def matchAt? (regex : Regex) (fold : Bool) (suits : Match → Bool) (place : Place) :
    Option Match :=
  let found := ((regex.ends fold place).map fun closed => ⟨place, closed⟩).filter suits
  found.foldl (fun best other =>
    match best with
    | none => some other
    | some best =>
      if best.closed.index < other.closed.index then some other else some best) none

/-- The first match from a place on.  The bound is more than the characters behind it. -/
def search? (regex : Regex) (fold : Bool) (suits : Match → Bool) : Nat → Place → Option Match
  | 0, _ => none
  | bound + 1, place =>
    match regex.matchAt? fold suits place with
    | some found => some found
    | none =>
      match place.rest with
      | [] => none
      | c :: rest =>
        search? regex fold suits bound
          { place with index := place.index + 1, previous := some c, rest }

/-- The first match in a text from a place on. -/
def find? (regex : Regex) (fold : Bool) (place : Place) : Option Match :=
  regex.search? fold (fun _ => true) (place.rest.length + 1) place

/-- The expression matches a part of the text. -/
def occursIn (regex : Regex) (fold : Bool) (text : List Char) : Bool :=
  (regex.find? fold { rest := text }).isSome

/-- The number of groups in an expression. -/
def groupCount : Regex → Nat
  | group _ inner => inner.groupCount + 1
  | sequence first second | either first second => first.groupCount + second.groupCount
  | repeated _ _ inner => inner.groupCount
  | _ => 0

/-! ## Reading -/

/-- How expressions are written. -/
structure Dialect where
  /-- parentheses, braces and bars are signs without a backslash -/
  extended : Bool := false
  /-- a sign that makes no sense where it stands is a character like others -/
  lenient : Bool := false
  /-- the ends of lines count as ends of the text, and only they match them -/
  byLine : Bool := false
deriving DecidableEq, Repr

/-- What is wrong with an expression. -/
inductive Fault where
  | openGroup
  | closedGroup
  | openSet
  | noSet
  | unknownClass
  | classAlone
  | backwards
  | longElement
  | backslash
  | openBounds
  | badBounds
  | tooBig
  | noGroup
  | noOperand
deriving DecidableEq, Repr

/-- What is wrong, in words. -/
def Fault.message : Fault → String
  | openGroup => "Unmatched ( or \\("
  | closedGroup => "Unmatched ) or \\)"
  | openSet => "Unmatched [, [^, [:, [., or [="
  | noSet => "Invalid regular expression"
  | unknownClass => "Invalid character class name"
  | classAlone => "character class syntax is [[:space:]], not [:space:]"
  | backwards => "Invalid range end"
  | longElement => "Invalid collation character"
  | backslash => "Trailing backslash"
  | openBounds => "Unmatched \\\x7b"
  | badBounds => "Invalid content of \\\x7b\\\x7d"
  | tooBig => "Regular expression too big"
  | noGroup => "Invalid back reference"
  | noOperand => "Invalid preceding regular expression"

/-- The expression for one character. -/
def exactly (c : Char) : Regex :=
  one (.exactly c)

/-- The expression for one character but the end of a line, if it is for all characters but
    some. -/
def withoutEnds : Regex → Regex
  | one { negated := true, ranges } => one { negated := true, ranges := ('\n', '\n') :: ranges }
  | regex => regex

/-- The expression for a text as it stands. -/
def literal : List Char → Regex
  | [] => nothing
  | [c] => exactly c
  | c :: text => sequence (exactly c) (literal text)

/-- Reads the characters in brackets from behind the opening one.  A closing one that comes
    first is one of the characters.  The bound is the length of the text. -/
def readSet :
    Nat → Bool → List Char → Except Fault (List (Char × Char) × List Char)
  | _, isFirst, [] => .error (if isFirst then .noSet else .openSet)
  | 0, _, _ => .error .openSet
  | bound + 1, isFirst, c :: rest =>
    let others (found : List (Char × Char)) (rest : List Char) :
        Except Fault (List (Char × Char) × List Char) :=
      (readSet bound false rest).map fun (others, rest) => (found ++ others, rest)
    if c = ']' ∧ ¬ isFirst then .ok ([], rest)
    else if c = '[' ∧ rest.head? = some ':' then
      let name := (rest.drop 1).takeWhile (· ≠ ':')
      match CharSet.named? (String.ofList name), rest.drop (name.length + 1) with
      | some ranges, ':' :: ']' :: rest => others ranges rest
      | none, ':' :: ']' :: _ => .error .unknownClass
      | _, _ => .error .openSet
    else if c = '[' ∧ (rest.head? = some '=' ∨ rest.head? = some '.') then
      match rest.drop 1 with
      | d :: e :: ']' :: rest =>
        if rest.isEmpty ∨ e = '=' ∨ e = '.' then others [(d, d)] rest else .error .longElement
      | _ => .error .longElement
    else
      match rest with
      | '-' :: d :: behind =>
        if d = ']' then others [(c, c)] rest
        else if d < c then .error .backwards
        else others [(c, d)] behind
      | _ => others [(c, c)] rest

/-- The text in brackets looks like the name of a class that is not in brackets itself. -/
def isClassAlone (text : List Char) : Bool :=
  let inside := text.takeWhile (· ≠ ']')
  text.head? = some ':' && 1 < inside.length && inside.getLast? = some ':'

/-- Reads a set in brackets from behind the opening one. -/
def readBrackets (text : List Char) : Except Fault (Regex × List Char) :=
  let (negated, inside) := match text with
    | '^' :: rest => (true, rest)
    | _ => (false, text)
  if isClassAlone text then .error .classAlone
  else (readSet inside.length true inside).map fun (ranges, rest) =>
    (one { negated, ranges }, rest)

/-- The number that digits write. -/
def ofDigits (digits : List Char) : Nat :=
  digits.foldl (fun n c => n * 10 + (c.toNat - '0'.toNat)) 0

/-- The largest number of repetitions that can be asked for. -/
def maxRepetitions : Nat := 32767

/-- The bounds of a repetition, as digits, and the text behind the closing brace. -/
def splitBounds (extended : Bool) (text : List Char) :
    Except Fault ((List Char × Option (List Char)) × List Char) :=
  let low := text.takeWhile Char.isDigit
  let (high, rest) := match text.drop low.length with
    | ',' :: rest =>
      let high := rest.takeWhile Char.isDigit
      (some high, rest.drop high.length)
    | rest => (none, rest)
  let isEmpty := low.isEmpty ∧ high.isNone
  match extended, rest with
  | true, '\x7d' :: rest | false, '\\' :: '\x7d' :: rest =>
    if isEmpty then .error .badBounds else .ok ((low, high), rest)
  | _, [] => .error .openBounds
  | _, _ => .error .badBounds

/-- How often something is repeated: at least, and at most if there is a limit. -/
abbrev Bounds := Nat × Option Nat

/-- Reads the bounds of a repetition from behind the opening brace.  Nothing is read if they
    are no bounds and need not be. -/
def readBounds (dialect : Dialect) (text : List Char) :
    Except Fault (Option (Bounds × List Char)) :=
  match splitBounds dialect.extended text with
  | .error fault => if dialect.extended ∧ dialect.lenient then .ok none else .error fault
  | .ok ((low, high), rest) =>
    let low := ofDigits low
    let high := match high with
      | none => some low
      | some [] => none
      | some digits => some (ofDigits digits)
    if high.any (· < low) then .error .badBounds
    else if maxRepetitions < max low (high.getD 0) then .error .tooBig
    else .ok (some ((low, high), rest))

/-- Reads what tells how often the expression before it is repeated, if that stands here. -/
def readRepetition (dialect : Dialect) (text : List Char) :
    Except Fault (Option (Bounds × List Char)) :=
  match dialect.extended, text with
  | _, '*' :: rest => .ok (some ((0, none), rest))
  | true, '+' :: rest | false, '\\' :: '+' :: rest => .ok (some ((1, none), rest))
  | true, '?' :: rest | false, '\\' :: '?' :: rest => .ok (some ((0, some 1), rest))
  | true, '\x7b' :: rest | false, '\\' :: '\x7b' :: rest => readBounds dialect rest
  | _, _ => .ok none

/-- The expression with all the repetitions that stand behind it.  Only a strict dialect
    refuses a second one. -/
def withRepetitions (dialect : Dialect) :
    Nat → Bool → Regex → List Char → Except Fault (Regex × List Char)
  | 0, _, regex, text => .ok (regex, text)
  | bound + 1, isRepeated, regex, text => do
    match ← readRepetition dialect text with
    | some ((low, high), rest) =>
      if isRepeated ∧ ¬ dialect.extended ∧ ¬ dialect.lenient then throw .noOperand
      withRepetitions dialect bound true (repeated low high regex) rest
    | none => return (regex, text)

/-- What a letter behind a backslash stands for. -/
def escaped (c : Char) : Regex :=
  match c with
  | 'w' => one { ranges := CharSet.word }
  | 'W' => one { negated := true, ranges := CharSet.word }
  | 's' => one { ranges := [('\t', '\r'), (' ', ' ')] }
  | 'S' => one { negated := true, ranges := [('\t', '\r'), (' ', ' ')] }
  | 'b' => edge true true
  | '<' => edge true false
  | '>' => edge false true
  | 'B' => noEdge
  | '\u0060' => start
  | '\u0027' => finish
  | _ => exactly c

/-- The text goes on with the end of a branch.  Outside of groups a closing parenthesis may
    be a character like others. -/
def endsBranch (dialect : Dialect) (inside : Bool) (text : List Char) : Bool :=
  match dialect.extended, text with
  | _, [] => true
  | true, c :: _ => c = '|' || (c = ')' && (inside || !dialect.lenient))
  | false, '\\' :: c :: _ => c = '|' || c = ')'
  | false, _ => false

/-- The text begins with a repetition that has nothing to repeat. -/
def lacksOperand (dialect : Dialect) (text : List Char) : Bool :=
  match dialect.lenient, dialect.extended, text with
  | true, _, _ => false
  | false, true, c :: _ => c = '*' || c = '+' || c = '?' || c = '\x7b'
  | false, false, '\\' :: '\x7b' :: _ => true
  | _, _, _ => false

mutual

/-- Reads alternatives, with the number of the groups so far.  The bound is more than twice
    the length of the text. -/
def readEither (dialect : Dialect) (inside : Bool) :
    Nat → Nat → List Char → Except Fault ((Regex × Nat) × List Char)
  | 0, _, _ => .error .tooBig
  | bound + 1, groups, text => do
    let ((first, groups), rest) ← readBranch dialect inside bound true groups text
    let behind? := match dialect.extended, rest with
      | true, '|' :: behind | false, '\\' :: '|' :: behind => some behind
      | _, _ => none
    match behind? with
    | some behind =>
      let ((second, groups), rest) ← readEither dialect inside bound groups behind
      return ((either first second, groups), rest)
    | none => return ((first, groups), rest)
termination_by structural bound => bound

/-- Reads one alternative. -/
def readBranch (dialect : Dialect) (inside : Bool) :
    Nat → Bool → Nat → List Char → Except Fault ((Regex × Nat) × List Char)
  | 0, _, _, _ => .error .tooBig
  | bound + 1, isFirst, groups, text => do
    if endsBranch dialect inside text then return ((nothing, groups), text)
    if isFirst ∧ lacksOperand dialect text then throw .noOperand
    let ((atom, groups), rest) ← readAtom dialect inside bound isFirst groups text
    let isAnchor : Bool := match atom with
      | .start | .lineStart => true
      | _ => false
    if isAnchor ∧ lacksOperand dialect rest then throw .noOperand
    let (piece, rest) ←
      if isAnchor ∧ ¬ dialect.extended then pure (atom, rest)
      else withRepetitions dialect rest.length false atom rest
    let ((others, groups), rest) ←
      readBranch dialect inside bound (isAnchor && !dialect.extended) groups rest
    return ((match others with
      | .nothing => piece
      | _ => sequence piece others, groups), rest)
termination_by structural bound => bound

/-- Reads an expression that repetitions may follow. -/
def readAtom (dialect : Dialect) (inside : Bool) :
    Nat → Bool → Nat → List Char → Except Fault ((Regex × Nat) × List Char)
  | 0, _, _, _ => .error .tooBig
  | bound + 1, isFirst, groups, text => do
    let extended := dialect.extended
    match text with
    | [] => return ((nothing, groups), [])
    | '[' :: rest =>
      let (set, rest) ← readBrackets rest
      return ((if dialect.byLine then withoutEnds set else set, groups), rest)
    | '.' :: rest =>
      return ((if dialect.byLine then withoutEnds (one .all) else one .all, groups), rest)
    | '^' :: rest =>
      let anchor := if dialect.byLine then lineStart else start
      return ((if extended ∨ isFirst then anchor else exactly '^', groups), rest)
    | '$' :: rest =>
      let isLast := extended || endsBranch {} inside rest
      let anchor := if dialect.byLine then lineFinish else finish
      return ((if isLast then anchor else exactly '$', groups), rest)
    | '\\' :: c :: rest =>
      if c = '(' ∧ ¬ extended then readGroup dialect bound groups rest
      else if c.isDigit ∧ c ≠ '0' then
        if groups < ofDigits [c] then throw .noGroup
        return ((again (ofDigits [c]), groups), rest)
      else return ((escaped c, groups), rest)
    | ['\\'] => throw .backslash
    | c :: rest =>
      if c = '(' ∧ extended then readGroup dialect bound groups rest
      else return ((exactly c, groups), rest)
termination_by structural bound => bound

/-- Reads a group from behind its opening parenthesis. -/
def readGroup (dialect : Dialect) :
    Nat → Nat → List Char → Except Fault ((Regex × Nat) × List Char)
  | 0, _, _ => .error .tooBig
  | bound + 1, groups, text => do
    let number := groups + 1
    let ((inner, groups), rest) ← readEither dialect true bound number text
    match dialect.extended, rest with
    | true, ')' :: rest | false, '\\' :: ')' :: rest =>
      return ((group number inner, groups), rest)
    | _, _ => throw .openGroup
termination_by structural bound => bound

end

/-- The expression that a text writes. -/
def parse (dialect : Dialect) (text : List Char) : Except Fault Regex := do
  let ((regex, _), rest) ← readEither dialect false (4 * text.length + 4) 0 text
  if rest.isEmpty then return regex else throw .closedGroup

/-! ## Examples -/

example : parse {} "\\(a".toList matches .error .openGroup := by decide +kernel

end Regex
end TestCoverage.Filter
