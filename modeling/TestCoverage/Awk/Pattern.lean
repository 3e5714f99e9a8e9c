/-
  TestCoverage.Awk.Pattern

  Regular expressions as programs write them, and what is done to texts with them.

  An escape stands for one character, which means nothing but itself.
-/
import TestCoverage.Filter.Regex
import TestCoverage.Shell.Format

namespace TestCoverage.Awk

open TestCoverage.Filter (Place Regex)

namespace Pattern

/-! ## Reading -/

/-- The character that an escape stands for, behind its backslash, and the text behind it. -/
def escaped (text : List Char) : Char × List Char :=
  match text with
  | [] => ('\\', [])
  | c :: rest =>
    match Shell.Format.letters.find? (·.1 = c) with
    | some (_, meant) => (if c = 'e' then c else meant, rest)
    | none =>
      let digits := (text.take 3).takeWhile Shell.Format.isOctal
      if digits.isEmpty then (c, rest) else (Shell.Format.ofOctal digits, text.drop digits.length)

/-- A character that means itself. -/
def itself (c : Char) : List Char :=
  if "\\^$.[]|()*+?\x7b\x7d".toList.contains c then ['\\', c] else [c]

/-- What stands in brackets: the characters, those that are written by escapes, and the text
    behind the closing one.  The bound is the length of the text. -/
def inBrackets : Nat → List Char → List Char × List Char × List Char
  | 0, text => ([], [], text)
  | _, [] => ([], [], [])
  | _ + 1, ']' :: rest => ([], [], rest)
  | bound + 1, '\\' :: text =>
    let (c, rest) := escaped text
    let (plain, meant, rest) := inBrackets bound rest
    if c = ']' ∨ c = '^' ∨ c = '-' then (plain, c :: meant, rest) else (c :: plain, meant, rest)
  | bound + 1, '[' :: ':' :: rest =>
    let name := rest.takeWhile (· ≠ ':')
    let (plain, meant, rest) := inBrackets bound (rest.drop (name.length + 2))
    ("[:".toList ++ name ++ ":]".toList ++ plain, meant, rest)
  | bound + 1, c :: rest =>
    let (plain, meant, rest) := inBrackets bound rest
    (c :: plain, meant, rest)

/-- A set in brackets, as it is written where nothing is an escape, and the text behind it. -/
def brackets (text : List Char) : List Char × List Char :=
  let (sign, text) := match text with
    | '^' :: rest => (['^'], rest)
    | _ => ([], text)
  let (first, text) := match text with
    | ']' :: rest => ([']'], rest)
    | _ => ([], text)
  let (plain, meant, rest) := inBrackets text.length text
  let closing := if meant.contains ']' ∧ first.isEmpty then [']'] else first
  ('[' :: sign ++ closing ++ plain ++ meant.filter (· = '^') ++ meant.filter (· = '-') ++ [']'],
    rest)

/-- The text goes on with bounds, and a brace behind them. -/
def beginsBounds (text : List Char) : Bool :=
  let inside := text.takeWhile (· ≠ '\x7d')
  inside.length < text.length && inside.all fun c => c.isDigit || c == ','

/-- The expression as it is written where there are only escapes for signs.  The bound is the
    length of the text, and the depth counts the groups that are open. -/
def plain : Nat → Nat → List Char → List Char
  | 0, _, text => text
  | _, _, [] => []
  | bound + 1, depth, '\\' :: text =>
    let (c, rest) := escaped text
    itself c ++ plain bound depth rest
  | bound + 1, depth, '[' :: rest =>
    if rest.contains ']' then
      let (set, rest) := brackets rest
      set ++ plain bound depth rest
    else '[' :: rest
  | bound + 1, depth, '\x7b' :: rest =>
    if beginsBounds rest then '\x7b' :: plain bound depth rest
    else '\\' :: '\x7b' :: plain bound depth rest
  | bound + 1, depth, c :: rest =>
    if c = '(' then c :: plain bound (depth + 1) rest
    else if c = ')' ∧ depth = 0 then '\\' :: c :: plain bound depth rest
    else if c = ')' then c :: plain bound (depth - 1) rest
    else c :: plain bound depth rest

/-- Why an expression cannot be read. -/
def faultText : Regex.Fault → String
  | .openGroup => "missing ')'"
  | .closedGroup => "missing '('"
  | .noOperand => "missing operand"
  | .openBounds | .badBounds | .tooBig => "bad interval expression"
  | _ => "bad class -- [], [^] or ["

/-- Reads an expression.  The fault is told with its text. -/
def compile (source : List Char) : Except (List Char) Regex :=
  match Regex.parse { extended := true } (plain source.length 0 source) with
  | .ok regex => .ok regex
  | .error fault =>
    let reason := s!"regular expression compile failed ({faultText fault})\n"
    .error (reason.toList ++ source)

/-! ## Parts of texts -/

/-- What comes before the first match that is not empty, and the match. -/
def firstPart? (regex : Regex) (place : Place) : Option (List Char × Regex.Match) :=
  let found := regex.search? false (fun found => !found.text.isEmpty)
    (place.rest.length + 1) place
  found.map fun found => (place.rest.take (found.opened.index - place.index), found)

/-- The parts of a text between matches.  The bound is more than the length of the text. -/
def partsFrom (regex : Regex) : Nat → Place → List (List Char)
  | 0, place => [place.rest]
  | bound + 1, place =>
    match firstPart? regex place with
    | none => [place.rest]
    | some (part, found) => part :: partsFrom regex bound found.closed

/-- The parts of a text between blanks. -/
def blankParts (text : List Char) : List (List Char) :=
  let isBlank (c : Char) : Bool := c == ' ' || c == '\t' || c == '\n'
  (text.splitBy fun c d => isBlank c == isBlank d).filter fun part => !part.all isBlank

/-- The parts of a text: between blanks for a space, single characters for nothing, and else
    between matches. -/
def parts (separator text : List Char) : Except (List Char) (List (List Char)) := do
  if text.isEmpty then return []
  match separator with
  | [' '] => return blankParts text
  | [] => return text.map ([·])
  | [c] => return partsFrom (.exactly c) (text.length + 1) { rest := text }
  | _ => return partsFrom (← compile separator) (text.length + 1) { rest := text }

/-- The first record of a text, and what is behind it; none if there is no more.  Without a
    separator records are between empty lines. -/
def record? (separator text : List Char) :
    Except (List Char) (Option (List Char × List Char)) := do
  if text.isEmpty then return none
  match separator with
  | [] =>
    let text := text.dropWhile (· = '\n')
    if text.isEmpty then return none
    let lines := text.splitBy fun c d => !(c == '\n' && d == '\n')
    let record := lines.headD []
    let rest := (text.drop record.length).dropWhile (· = '\n')
    return some (if record.getLast? = some '\n' then record.dropLast else record, rest)
  | [c] =>
    let record := text.takeWhile (· ≠ c)
    return some (record, text.drop (record.length + 1))
  | _ =>
    match firstPart? (← compile separator) { rest := text } with
    | some (record, found) => return some (record, found.closed.rest)
    | none => return some (text, [])

/-! ## Replacing -/

/-- A piece of what comes in the place of a match: a text, or the match again. -/
inductive Piece where
  | char (c : Char)
  | found
deriving DecidableEq, Repr

/-- The pieces that a text writes.  A backslash before a sign for the match, and before another
    backslash with such a sign behind, takes its meaning away.  The bound is the length of the
    text. -/
def pieces : Nat → List Char → List Piece
  | 0, _ | _, [] => []
  | bound + 1, '&' :: rest => .found :: pieces bound rest
  | bound + 1, '\\' :: '&' :: rest => .char '&' :: pieces bound rest
  | bound + 1, '\\' :: '\\' :: rest =>
    let behind := rest.dropWhile (· = '\\')
    if behind.head? = some '&' then .char '\\' :: pieces bound rest
    else .char '\\' :: .char '\\' :: pieces bound rest
  | bound + 1, c :: rest => .char c :: pieces bound rest

/-- The text that comes in the place of a match. -/
def filled (pieces : List Piece) (found : List Char) : List Char :=
  pieces.flatMap fun
    | .char c => [c]
    | .found => found

/-- Replaces the first match, or all of them, from a place on: the text, and how many have been
    replaced.  An empty match right behind another match does not count.  The bound is more
    than the characters behind the place. -/
def replaceFrom (regex : Regex) (all : Bool) (pieces : List Piece) :
    Nat → Option Nat → Place → List Char × Nat
  | 0, _, place => (place.rest, 0)
  | bound + 1, last, place =>
    match regex.find? false place with
    | none => (place.rest, 0)
    | some found =>
      let before := place.rest.take (found.opened.index - place.index)
      let text := found.text
      let counts := !text.isEmpty || last != some found.opened.index
      let shown := before ++ (if counts then filled pieces text else [])
      let count := if counts then 1 else 0
      if counts ∧ ¬ all then (shown ++ found.closed.rest, 1)
      else if text.isEmpty then
        match found.closed.rest with
        | [] => (shown, count)
        | c :: rest =>
          let next : Place := { index := found.closed.index + 1, previous := some c, rest }
          let (others, more) := replaceFrom regex all pieces bound none next
          (shown ++ c :: others, count + more)
      else
        let (others, more) :=
          replaceFrom regex all pieces bound (some found.closed.index) found.closed
        (shown ++ others, count + more)

/-- Replaces the first match in a text, or all of them: the text, and how many have been
    replaced. -/
def replace (regex : Regex) (all : Bool) (replacement text : List Char) : List Char × Nat :=
  replaceFrom regex all (pieces replacement.length replacement) (text.length + 2) none
    { rest := text }

/-! ## Examples -/

example : (parts ", *".toList "a,  b,".toList).toOption =
    some ["a".toList, "b".toList, []] := by decide +kernel
example : (record? [] "\na\nb\n\n\nc".toList).toOption =
    some (some ("a\nb".toList, "c".toList)) := by decide +kernel

end Pattern
end TestCoverage.Awk
