/-
  TestCoverage.Yaml.Scalar

  The texts of a YAML document: in quotes, plain, or as a block of lines.

  Where a text goes over the end of a line, the line ends are folded: one becomes a space,
  and of several all but the first are kept.
-/
import TestCoverage.Text.Hex
import TestCoverage.Yaml.Cursor

namespace TestCoverage.Yaml

/-- What surrounds a text: the column that its lines have to reach, and whether it stands
    in brackets. -/
structure Setting where
  indent : Int
  inFlow : Bool
deriving DecidableEq, Repr

/-- So many line ends. -/
def lineEnds (count : Nat) : List Char :=
  List.replicate count '\n'

/-! ## White space inside a text -/

/-- White space inside a text: blanks, or line ends.  `hasFirst` says that the first line
    end has been met, and `more` counts the others. -/
structure Fold where
  isBroken : Bool := false
  hasFirst : Bool := false
  more : Nat := 0
  blanks : List Char := []
deriving DecidableEq, Repr

/-- What stands for the white space in the text. -/
def Fold.text (fold : Fold) : List Char :=
  if ¬ fold.isBroken then fold.blanks
  else if fold.hasFirst ∧ fold.more = 0 then [' ']
  else lineEnds fold.more

/-- The white space with one more line end. -/
def Fold.addBreak (fold : Fold) : Fold :=
  if fold.isBroken then { fold with more := fold.more + 1 }
  else ⟨true, true, fold.more, []⟩

/-- Reads white space inside a text; a tab before the column of the text is a matter for
    `onTab`, and behind a comment the line counts as one with a text.  The number of steps is
    bounded by the length of the text. -/
def readFold (indent : Int) (onTab : Cursor → Except Fault Cursor) :
    Nat → Fold → Cursor → Except Fault (Fold × Cursor)
  | 0, fold, cursor => .ok (fold, cursor)
  | bound + 1, fold, cursor =>
    let c := cursor.peek 0
    if isBreak c then readFold indent onTab bound fold.addBreak cursor.skipBreak
    else if isBlank c then
      if ¬ fold.isBroken then
        readFold indent onTab bound { fold with blanks := fold.blanks ++ [c] }
          (cursor.skipBlanks 1)
      else if c = '\t' ∧ (cursor.mark.column : Int) < indent then do
        let behind ← onTab cursor
        readFold indent onTab bound { fold with isBroken := behind.isLeading } behind
      else readFold indent onTab bound fold (cursor.skipBlanks 1)
    else .ok (fold, cursor)

/-! ## Quoted texts -/

/-- The character that an escape of one letter stands for. -/
def letterEscape? : Char → Option Char
  | '0' => some '\x00'
  | 'a' => some '\x07'
  | 'b' => some '\x08'
  | 't' | '\t' => some '\t'
  | 'n' => some '\n'
  | 'v' => some '\x0b'
  | 'f' => some '\x0c'
  | 'r' => some '\r'
  | 'e' => some '\x1b'
  | ' ' => some ' '
  | '"' => some '"'
  | '/' => some '/'
  | '\\' => some '\\'
  | 'N' => some '\u0085'
  | '_' => some '\u00A0'
  | 'L' => some '\u2028'
  | 'P' => some '\u2029'
  | _ => none

/-- How many hexadecimal digits an escape has. -/
def hexLength : Char → Nat
  | 'x' => 2
  | 'u' => 4
  | 'U' => 8
  | _ => 0

/-- Reads an escape from its backslash on. -/
def readEscape (start : Mark) (cursor : Cursor) : Except Fault (Char × Cursor) :=
  let letter := cursor.peek 1
  match letterEscape? letter with
  | some c => .ok (c, cursor.skip 2)
  | none =>
    let length := hexLength letter
    if length = 0 then
      .error ⟨start, "while parsing a quoted scalar, found unknown escape character"⟩
    else
      let digits := (cursor.text.drop 2).take length
      match Text.hexValue? 0 digits with
      | none =>
        .error ⟨start, "while parsing a quoted scalar, did not find expected hexadecimal number"⟩
      | some value =>
        if digits.length < length then
          .error
            ⟨start, "while parsing a quoted scalar, did not find expected hexadecimal number"⟩
        else if value < 0xD800 ∨ (0xDFFF < value ∧ value < 0x110000) then
          .ok (Char.ofNat value, cursor.skip (2 + length))
        else
          .error
            ⟨start, "while parsing a quoted scalar, found invalid Unicode character escape code"⟩

/-- Reads the part of a quoted text without white space; says if an escaped line end stands
    behind it. -/
def readSolid (isSingle : Bool) (start : Mark) :
    Nat → Cursor → Except Fault (List Char × Bool × Cursor)
  | 0, cursor => .ok ([], false, cursor)
  | bound + 1, cursor =>
    let c := cursor.peek 0
    let more (d : Char) (cursor : Cursor) : Except Fault (List Char × Bool × Cursor) :=
      (readSolid isSingle start bound cursor).map fun (text, found) => (d :: text, found)
    if isGap c then .ok ([], false, cursor)
    else if isSingle then
      if c = '\'' then
        if cursor.peek 1 = '\'' then more '\'' (cursor.skip 2) else .ok ([], false, cursor)
      else more c (cursor.skip 1)
    else if c = '"' then .ok ([], false, cursor)
    else if c = '\\' then
      if isBreak (cursor.peek 1) then .ok ([], true, (cursor.skip 1).skipBreak)
      else do
        let (d, behind) ← readEscape start cursor
        more d behind
    else more c (cursor.skip 1)

/-- Reads the rest of a quoted text up to its closing quote.  The number of steps is bounded
    by the length of the text. -/
def readQuotedRest (isSingle : Bool) (setting : Setting) (start : Mark) :
    Nat → Cursor → Except Fault (List Char × Cursor)
  | 0, cursor => .error (cursor.fault "while scanning a quoted scalar")
  | bound + 1, cursor => do
    if cursor.isAtIndicator then
      throw ⟨start, "while scanning a quoted scalar, found unexpected document indicator"⟩
    if cursor.peek 0 = '\x00' then
      throw ⟨start, "while scanning a quoted scalar, found unexpected end of stream"⟩
    if (cursor.mark.column : Int) < setting.indent then
      throw ⟨start, "invalid indentation in quoted scalar"⟩
    let (solid, isJoined, cursor) ← readSolid isSingle start (bound + 1) cursor
    if cursor.peek 0 = (if isSingle then '\'' else '"') then return (solid, cursor.skip 1)
    let onTab (cursor : Cursor) : Except Fault Cursor :=
      .error (cursor.fault "tab cannot be used as indentation")
    let (fold, cursor) ←
      readFold setting.indent onTab (bound + 1) { isBroken := isJoined } cursor
    let (text, cursor) ← readQuotedRest isSingle setting start bound cursor
    return (solid ++ fold.text ++ text, cursor)

/-- Reads a quoted text.  Behind it the line has to end, unless it is a key or stands in
    brackets. -/
def readQuoted (isSingle : Bool) (setting : Setting) (cursor : Cursor) :
    Except Fault (List Char × Cursor) := do
  let start := cursor.mark
  let (text, cursor) ←
    readQuotedRest isSingle setting start (cursor.text.length + 1) (cursor.skip 1)
  let (cursor, _) ← cursor.skipLineRest
  let c := cursor.peek 0
  let isClosed := isBreakOrEnd c ||
    (setting.inFlow && (c == ',' || c == '\x7d' || c == ']' || c == ':')) ||
    (c == ':' && start.line == cursor.mark.line)
  if isClosed then return (text, cursor)
  else throw (cursor.fault "invalid trailing content after double-quoted scalar")

/-! ## Plain texts -/

/-- The character at the cursor may stand in a plain text. -/
def Cursor.isAtPlain (inFlow : Bool) (cursor : Cursor) : Bool :=
  let c := cursor.peek 0
  let next := cursor.peek 1
  if c = ':' then !(isGap next || (inFlow && isFlow next))
  else !(inFlow && isFlow c)

/-- Reads the part of a plain text without white space. -/
def readPlainSolid (inFlow : Bool) : Nat → Cursor → List Char × Cursor
  | 0, cursor => ([], cursor)
  | bound + 1, cursor =>
    let c := cursor.peek 0
    if isGap c || !cursor.isAtPlain inFlow then ([], cursor)
    else
      let (text, behind) := readPlainSolid inFlow bound (cursor.skip 1)
      (c :: text, behind)

/-- Reads the rest of a plain text behind white space.  The number of steps is bounded by
    the length of the text. -/
def readPlainRest (setting : Setting) (start : Mark) :
    Nat → Fold → Cursor → Except Fault (List Char × Cursor)
  | 0, _, cursor => .ok ([], cursor)
  | bound + 1, fold, cursor => do
    if cursor.isAtIndicator ∨ cursor.peek 0 = '#' then return ([], cursor)
    if setting.inFlow ∧ cursor.peek 0 = '-' ∧ isFlow (cursor.peek 1) then
      throw (cursor.fault "plain scalar cannot start with '-' followed by ,[]\x7b\x7d")
    let (solid, behind) := readPlainSolid setting.inFlow (bound + 1) cursor
    let text := if solid.isEmpty then [] else fold.text ++ solid
    let c := behind.peek 0
    if ¬ (isBlank c ∨ isBreak c) then return (text, behind)
    let onTab (cursor : Cursor) : Except Fault Cursor := do
      let (cursor, _) ← cursor.skipLineRest
      if isBreakOrEnd (cursor.peek 0) then return cursor
      else throw ⟨start, "while scanning a plain scalar, found a tab"⟩
    let (fold, behind) ← readFold setting.indent onTab (bound + 1) {} behind
    if ¬ setting.inFlow ∧ (behind.mark.column : Int) < setting.indent then
      return (text, behind)
    let (more, behind) ← readPlainRest setting start bound fold behind
    return (text ++ more, behind)

/-- Reads a plain text. -/
def readPlain (setting : Setting) (cursor : Cursor) : Except Fault (List Char × Cursor) := do
  let start := cursor.mark
  if setting.inFlow ∧ (start.column : Int) < setting.indent then
    throw ⟨start, "invalid indentation in flow construct"⟩
  let (text, cursor) ← readPlainRest setting start (cursor.text.length + 1) {} cursor
  if text.isEmpty then throw ⟨start, "unexpected end of plain scalar"⟩
  return (text, cursor)

/-! ## Blocks of lines -/

/-- What becomes of the line ends behind a block. -/
inductive Chomping where
  | strip
  | clip
  | keep
deriving DecidableEq, Repr

/-- Reads the sign for the line ends behind a block. -/
def readChomping (cursor : Cursor) : Option Chomping × Cursor :=
  if cursor.peek 0 = '+' then (some .keep, cursor.skip 1)
  else if cursor.peek 0 = '-' then (some .strip, cursor.skip 1)
  else (none, cursor)

/-- Reads the digit for the indentation of a block; zero if there is none. -/
def readIncrement (start : Mark) (cursor : Cursor) : Except Fault (Nat × Cursor) :=
  let c := cursor.peek 0
  if c = '0' then
    .error ⟨start, "while scanning a block scalar, found an indentation indicator equal to 0"⟩
  else if c.isDigit then .ok (c.toNat - '0'.toNat, cursor.skip 1)
  else .ok (0, cursor)

/-- The cursor behind the spaces before a column.  Sixteen characters at a time are fetched
    for it. -/
def Cursor.skipSpaces (column : Nat) : Nat → Cursor → Cursor
  | 0, cursor => cursor
  | bound + 1, cursor =>
    let cursor := cursor.fetch 16
    let spaces := ((cursor.text.take cursor.fetched).takeWhile (· == ' ')).length
    let behind := cursor.skipBlanks (min spaces (column - cursor.mark.column))
    if behind.mark.column = column ∨ (0 < behind.fetched ∧ behind.peek 0 ≠ ' ') then
      behind.fetch 2
    else skipSpaces column bound behind

/-- Passes over the spaces before a column and over lines without anything else; counts the
    lines. -/
def skipIndent (indent : Nat) : Nat → Nat → Cursor → Nat × Cursor
  | 0, count, cursor => (count, cursor)
  | bound + 1, count, cursor =>
    let behind := cursor.skipSpaces indent (indent + 1)
    if isBreak (behind.peek 0) then skipIndent indent bound (count + 1) behind.skipBreak
    else (count, behind)

/-- Passes over all spaces and over lines without anything else; counts the lines, and
    gives the greatest column reached. -/
def skipFirstIndent : Nat → Nat → Nat → Cursor → Nat × Nat × Cursor
  | 0, column, count, cursor => (column, count, cursor)
  | bound + 1, column, count, cursor =>
    let behind := (cursor.skipBlanks (cursor.text.takeWhile (· == ' ')).length).fetch 1
    let column := max column behind.mark.column
    if isBreak (behind.peek 0) then
      skipFirstIndent bound column (count + 1) (behind.fetch 2).skipBreak
    else (column, count, behind)

/-- A block of lines while it is read: its text, whether its last line has ended, how many
    empty lines have followed, and whether that line began with white space. -/
structure Block where
  text : List Char := []
  hasBreak : Bool := false
  empty : Nat := 0
  wasBlank : Bool := false
deriving DecidableEq, Repr

/-- The block with one more line. -/
def Block.add (block : Block) (isLiteral : Bool) (line : List Char) : Block :=
  let isBlankLine := (line.head?.map isBlank).getD false
  let between :=
    if ¬ isLiteral ∧ block.hasBreak ∧ ¬ block.wasBlank ∧ ¬ isBlankLine then
      if block.empty = 0 then [' '] else lineEnds block.empty
    else lineEnds ((if block.hasBreak then 1 else 0) + block.empty)
  { text := block.text ++ between ++ line, wasBlank := isBlankLine }

/-- Reads the lines of a block.  The number of steps is bounded by the length of the
    text. -/
def readLines (isLiteral : Bool) (indent : Nat) : Nat → Block → Cursor → Block × Cursor
  | 0, block, cursor => (block, cursor)
  | bound + 1, block, cursor =>
    if cursor.mark.column ≠ indent ∨ cursor.peek 0 = '\x00' then (block, cursor)
    else
      let cursor := if indent = 0 then cursor.fetch 4 else cursor
      if indent = 0 ∧ cursor.isAtMark "..." then (block, cursor)
      else
        let (line, behind) := cursor.readLine
        let behind := behind.fetch 2
        let block := block.add isLiteral line
        if behind.peek 0 = '\x00' then (block, behind)
        else
          let (empty, behind) := skipIndent indent behind.text.length 0 behind.skipBreak
          readLines isLiteral indent bound { block with hasBreak := true, empty } behind

/-- The text of a block, with the line ends behind it that are kept. -/
def Block.finish (block : Block) (chomping : Chomping) (indent : Nat) (cursor : Cursor) :
    List Char :=
  let isCut := cursor.peek 0 == '\x00' && max indent 1 ≤ cursor.mark.column
  let last := (if block.hasBreak then 1 else 0) + (if isCut then 1 else 0)
  match chomping with
  | .strip => block.text
  | .clip => block.text ++ lineEnds last
  | .keep => block.text ++ lineEnds (last + block.empty)

/-- Reads what stands on the line of the sign of a block: what becomes of the line ends
    behind it, and by how many columns its lines go in, or zero. -/
def readHeader (cursor : Cursor) : Except Fault (Chomping × Nat × Cursor) := do
  let start := cursor.mark
  let (before, cursor) := readChomping (cursor.skip 1)
  let (increment, cursor) ← readIncrement start cursor
  let (behind, cursor) :=
    if before.isNone ∧ 0 < increment then readChomping cursor else (none, cursor)
  let (cursor, _) ← cursor.skipLineRest
  if isBreakOrEnd (cursor.peek 0) then
    return ((before.or behind).getD .clip, increment, cursor)
  else
    throw
      ⟨start, "while scanning a block scalar, did not find expected comment or line break"⟩

/-- The number of line ends that an empty block has.  It has some only if it does not end on
    the line of its sign. -/
def emptyEnds (chomping : Chomping) (hasBreak : Bool) (empty : Nat) : Nat :=
  let first := if hasBreak then 1 else 0
  match chomping with
  | .strip => 0
  | .clip => first
  | .keep => if empty = 0 then first else empty

/-- Reads a block of lines from its sign on, and finds where its text begins.  `indent` is
    the column of what surrounds it. -/
def readBlock (isLiteral : Bool) (indent : Int) (cursor : Cursor) :
    Except Fault (Mark × List Char × Cursor) := do
  let start := cursor.mark
  let (chomping, increment, cursor) ← readHeader cursor
  let hasBreak := isBreak (cursor.peek 0)
  let cursor := (if hasBreak then (cursor.fetch 2).skipBreak else cursor).fetch 1
  if cursor.peek 0 = '\t' then
    throw ⟨start, "a block scalar content cannot start with a tab"⟩
  let bound := cursor.text.length + 1
  let given := if 0 < increment then (max indent 0).toNat + increment else 0
  let (column, empty, cursor) :=
    if given = 0 then skipFirstIndent bound 0 0 cursor
    else
      let (empty, cursor) := skipIndent given bound 0 cursor
      (given, empty, cursor)
  let column := if given = 0 then max column (indent + 1).toNat else given
  if cursor.peek 0 = '\x00' then
    let count := if cursor.mark.line = start.line then 0 else emptyEnds chomping hasBreak empty
    return (start, lineEnds count, cursor)
  if cursor.mark.column < column ∧ indent < (cursor.mark.column : Int) then
    throw (cursor.fault "wrongly indented line in block scalar")
  let (block, behind) := readLines isLiteral column bound { empty } cursor
  return (cursor.mark, block.finish chomping column behind, behind)

end TestCoverage.Yaml
