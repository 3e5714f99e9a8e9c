/-
  TestCoverage.Yaml.Scanner

  A YAML document as tokens.

  Blocks are told by columns, so tokens for their beginnings and ends are put in where the
  column changes.  Whether something is a key shows only at the colon behind it: until then
  it is kept as a possible key, and the tokens of a map and its key are put in front of it
  afterwards.
-/
import TestCoverage.Yaml.Scalar
import TestCoverage.Yaml.Tag

namespace TestCoverage.Yaml

/-! ## State -/

/-- Something that may turn out to be a key, by the number of its token.  It has to be one
    if nothing else can stand at its place. -/
structure PossibleKey where
  isPossible : Bool := false
  isRequired : Bool := false
  number : Nat := 0
  mark : Mark := ⟨0, 0, 0⟩
deriving DecidableEq, Repr

/-- A column that was left for a deeper one; `isBlock` says that a token ends the deeper
    one. -/
structure Indent where
  column : Int
  isBlock : Bool
deriving DecidableEq, Repr

/-- How far a document has been turned into tokens: the tokens that wait to be taken, the
    number of those that have been taken, the column of what surrounds the next token and the
    columns left for it, and what may turn out to be a key at each level of brackets. -/
structure Scanner where
  cursor : Cursor
  tokens : List Token := []
  taken : Nat := 0
  indent : Int := -1
  indents : List Indent := []
  keys : List PossibleKey := [{}]
  mayBeKey : Bool := true
  flowLevel : Nat := 0
  adjacentAt : Nat := 0
  hasFlowMap : Bool := false
  hasImplicitMap : Bool := false
deriving Repr

/-- A step of turning a document into tokens. -/
abbrev Scan := StateT Scanner (Except Fault)

namespace Scan

/-- Where the document is being read. -/
def cursor : Scan Cursor := return (← get).cursor

/-- Goes on with reading at a cursor. -/
def goOn (cursor : Cursor) : Scan Unit :=
  modify fun s => { s with cursor }

/-- Passes over so many characters. -/
def skip (count : Nat) : Scan Unit :=
  modify fun s => { s with cursor := s.cursor.skip count }

/-- Passes over white space and a comment. -/
def skipLineRest : Scan (Bool × Bool) := do
  let (cursor, found) ← (← cursor).skipLineRest
  goOn cursor
  return found

/-- Adds a token. -/
def push (mark : Mark) (kind : Kind) : Scan Unit :=
  modify fun s => { s with tokens := s.tokens ++ [⟨mark, kind⟩] }

/-- Puts a token in front of the one with a number. -/
def insert (number : Nat) (mark : Mark) (kind : Kind) : Scan Unit :=
  modify fun s =>
    let place := number - s.taken
    { s with tokens := s.tokens.take place ++ ⟨mark, kind⟩ :: s.tokens.drop place }

/-- Says whether the next token may be a key. -/
def allowKey (mayBeKey : Bool) : Scan Unit :=
  modify fun s => { s with mayBeKey }

/-! ## Possible keys -/

/-- What begins here may be a key. -/
def saveKey : Scan Unit :=
  modify fun s =>
    if ¬ s.mayBeKey then s
    else
      let isRequired := s.flowLevel == 0 && s.indent == s.cursor.mark.column &&
        (s.indents.head?.map Indent.isBlock).getD false
      let number := s.taken + s.tokens.length
      { s with keys := ⟨true, isRequired, number, s.cursor.mark⟩ :: s.keys.drop 1 }

/-- The key that was possible last is none. -/
def removeKey : Scan Unit := do
  match (← get).keys with
  | [] => return
  | key :: keys =>
    if key.isPossible ∧ key.isRequired then
      throw ((← cursor).fault "simple key expected")
    modify fun s => { s with keys := { key with isPossible := false } :: keys }

/-- Outside of brackets a key stands on one line and is not too long. -/
def isStale (s : Scanner) (key : PossibleKey) : Bool :=
  key.isPossible && s.flowLevel == 0 &&
    (key.mark.line < s.cursor.mark.line || key.mark.index + 1024 < s.cursor.mark.index)

/-- Gives up the keys that have become impossible. -/
def dropStaleKeys : Scan Unit := do
  let s ← get
  if s.keys.any fun key => isStale s key && key.isRequired then
    throw (s.cursor.fault "simple key expect ':'")
  modify fun s => { s with
    keys := s.keys.map fun key => if isStale s key then { key with isPossible := false } else key }

/-! ## Columns -/

/-- Goes to a deeper column and puts in the token of what begins there. -/
def rollIndent (column : Nat) (number : Option Nat) (kind : Kind) (mark : Mark) :
    Scan Unit := do
  if (← get).flowLevel = 0 then
    modify fun s =>
      match s.indents with
      | top :: rest =>
        if s.indent ≤ column ∧ ¬ top.isBlock then { s with indent := top.column, indents := rest }
        else s
      | [] => s
    if (← get).indent < column then
      modify fun s => { s with indents := ⟨s.indent, true⟩ :: s.indents, indent := column }
      match number with
      | some number => insert number mark kind
      | none => push mark kind

/-- Leaves the columns that are deeper than the given one. -/
def leaveIndents (column : Int) : List Indent → Scanner → Scanner
  | [], s => s
  | top :: rest, s =>
    if s.indent ≤ column then s
    else
      let tokens := if top.isBlock then s.tokens ++ [⟨s.cursor.mark, .blockEnd⟩] else s.tokens
      leaveIndents column rest { s with indents := rest, indent := top.column, tokens }

/-- Leaves the columns that are deeper than the given one, outside of brackets. -/
def unrollIndent (column : Int) : Scan Unit :=
  modify fun s => if s.flowLevel = 0 then leaveIndents column s.indents s else s

/-- What follows has to be deeper by one column. -/
def rollOneColumn : Scan Unit :=
  modify fun s =>
    if s.flowLevel = 0 ∧ (s.indents.head?.map Indent.isBlock).getD false then
      { s with indents := ⟨s.indent, false⟩ :: s.indents, indent := s.indent + 1 }
    else s

/-- Leaves the columns that no token has begun. -/
def leaveLoose : List Indent → Scanner → Scanner
  | [], s => s
  | top :: rest, s =>
    if top.isBlock then s else leaveLoose rest { s with indents := rest, indent := top.column }

/-- Leaves the columns that no token has begun. -/
def unrollLoose : Scan Unit :=
  modify fun s => leaveLoose s.indents s

/-! ## Gaps -/

/-- Passes over white space, line ends and comments.  A tab does not count as indentation.
    The number of steps is bounded by the length of the document. -/
def skipGap : Nat → Scan Unit
  | 0 => return
  | bound + 1 => do
    let s ← get
    let c := s.cursor.peek 0
    if c = '\t' ∧ ¬ s.indents.isEmpty ∧ s.cursor.isLeading ∧
        (s.cursor.mark.column : Int) < s.indent then
      let _ ← skipLineRest
      let cursor ← cursor
      if ¬ isBreakOrEnd (cursor.peek 0) then
        throw (cursor.fault "tabs disallowed within this context (block indentation)")
      skipGap bound
    else if isBlank c then
      goOn (s.cursor.skipBlanks 1)
      skipGap bound
    else if isBreak c then
      goOn s.cursor.skipBreak
      if s.flowLevel = 0 then allowKey true
      skipGap bound
    else if c = '#' then
      goOn (s.cursor.skipWhile fun c => !isBreakOrEnd c)
      skipGap bound

/-- Passes over spaces, line ends and comments.  The number of steps is bounded by the length
    of the document. -/
def skipSpaceAndComments : Nat → Scan Unit
  | 0 => return
  | bound + 1 => do
    let s ← get
    let c := s.cursor.peek 0
    if c = ' ' then
      goOn (s.cursor.skipBlanks 1)
      skipSpaceAndComments bound
    else if isBreak c then
      goOn s.cursor.skipBreak
      if s.flowLevel = 0 then allowKey true
      skipSpaceAndComments bound
    else if c = '#' then
      goOn (s.cursor.skipWhile fun c => !isBreakOrEnd c)
      skipSpaceAndComments bound

/-- Passes over white space, line ends and comments. -/
def toNextToken : Scan Unit := do
  skipGap ((← cursor).text.length + 1)

/-! ## Documents -/

/-- The end of the document file. -/
def endStream : Scan Unit := do
  modify fun s =>
    if s.cursor.mark.column = 0 then s
    else { s with cursor := { s.cursor with
      mark := ⟨s.cursor.mark.index, s.cursor.mark.line + 1, 0⟩ } }
  if (← get).keys.any fun key => key.isRequired && key.isPossible then
    throw ((← cursor).fault "simple key expected")
  modify fun s => { s with keys := s.keys.map fun key => { key with isPossible := false } }
  unrollIndent (-1)
  allowKey false
  push (← cursor).mark .streamEnd

/-- The beginning or the end of a document. -/
def documentMark (kind : Kind) : Scan Unit := do
  unrollIndent (-1)
  removeKey
  allowKey false
  let mark := (← cursor).mark
  skip 3
  push mark kind

/-- The end of a document, behind which the line has to end. -/
def endDocument : Scan Unit := do
  documentMark .documentEnd
  let _ ← skipLineRest
  let cursor ← cursor
  if ¬ isBreakOrEnd (cursor.peek 0) then
    throw (cursor.fault "invalid content after document end marker")

/-- A line that tells how to read the document. -/
def readDirective : Scan Unit := do
  unrollIndent (-1)
  removeKey
  allowKey false
  let cursor ← cursor
  let (kind, behind) ← readDirectiveLine cursor
  goOn behind
  push cursor.mark kind

/-! ## Brackets -/

/-- The end of a map of one entry that has no brackets of its own. -/
def endImplicitMap (mark : Mark) : Scan Unit := do
  if (← get).hasImplicitMap then
    modify fun s => { s with hasImplicitMap := false, hasFlowMap := false }
    push mark .flowMappingEnd

/-- An opening bracket. -/
def openFlow (kind : Kind) : Scan Unit := do
  saveKey
  let mark := (← cursor).mark
  rollOneColumn
  modify fun s => { s with keys := {} :: s.keys, flowLevel := s.flowLevel + 1 }
  if 255 < (← get).flowLevel then throw ⟨mark, "recursion limit exceeded"⟩
  allowKey true
  skip 1
  if kind = .flowMappingStart then modify fun s => { s with hasFlowMap := true }
  let _ ← skipLineRest
  push mark kind

/-- A closing bracket. -/
def closeFlow (kind : Kind) : Scan Unit := do
  removeKey
  modify fun s =>
    if s.flowLevel = 0 then s else { s with flowLevel := s.flowLevel - 1, keys := s.keys.drop 1 }
  allowKey false
  let mark := (← cursor).mark
  endImplicitMap mark
  skip 1
  let _ ← skipLineRest
  modify fun s => if s.flowLevel = 0 then s else { s with adjacentAt := s.cursor.mark.index }
  push mark kind

/-- A comma. -/
def flowEntry : Scan Unit := do
  removeKey
  allowKey true
  let mark := (← cursor).mark
  endImplicitMap mark
  skip 1
  let _ ← skipLineRest
  push mark .flowEntry

/-! ## Entries, keys and values -/

/-- The dash before an element of a block. -/
def blockEntry : Scan Unit := do
  let s ← get
  let mark := s.cursor.mark
  if 0 < s.flowLevel then
    throw ⟨mark, "\"-\" is only valid inside a block"⟩
  if ¬ s.mayBeKey then
    throw ⟨mark, "block sequence entries are not allowed in this context"⟩
  match s.tokens.getLast? with
  | some ⟨at_, .anchor _⟩ | some ⟨at_, .tag _ _⟩ =>
    if mark.column = 0 ∧ at_.column = 0 ∧ -1 < s.indent then
      throw ⟨at_, "invalid indentation for anchor"⟩
  | _ => pure ()
  skip 1
  rollIndent mark.column none .blockSequenceStart mark
  let (_, hasTab) ← skipLineRest
  let cursor ← cursor
  if hasTab ∧ cursor.peek 0 = '-' ∧ isGap (cursor.peek 1) then
    throw (cursor.fault "'-' must be followed by a valid YAML whitespace")
  if isBreak (cursor.peek 0) ∨ isFlow (cursor.peek 0) then rollOneColumn
  removeKey
  allowKey true
  push cursor.mark .blockEntry

/-- The question mark before a key. -/
def blockKey : Scan Unit := do
  let s ← get
  let mark := s.cursor.mark
  if s.flowLevel = 0 then
    if ¬ s.mayBeKey then throw ⟨mark, "mapping keys are not allowed in this context"⟩
    rollIndent mark.column none .blockMappingStart mark
  else modify fun s => { s with hasFlowMap := true }
  removeKey
  allowKey (s.flowLevel == 0)
  skip 1
  let c := (← cursor).peek 0
  if ¬ (c = ' ' ∨ isBreak c) then throw ((← cursor).fault "expected whitespace")
  skipSpaceAndComments ((← cursor).text.length + 1)
  let cursor ← cursor
  if cursor.peek 0 = '\t' then throw (cursor.fault "tabs disallowed in this context")
  push mark .key

/-- The colon between a key and its value. -/
def blockValue : Scan Unit := do
  let s ← get
  let key := s.keys.head?.getD {}
  let mark := s.cursor.mark
  let isImplicit := 0 < s.flowLevel ∧ ¬ s.hasFlowMap
  modify fun s => { s with hasImplicitMap := isImplicit }
  skip 1
  if (← cursor).peek 0 = '\t' then
    let (hasSpace, _) ← skipLineRest
    let cursor ← cursor
    if ¬ hasSpace ∧ isWord (cursor.peek 0) then
      throw (cursor.fault "':' must be followed by a valid YAML whitespace")
  if key.isPossible then
    insert key.number key.mark .key
    if isImplicit then
      if key.mark.line < mark.line then
        throw ⟨mark, "illegal placement of ':' indicator"⟩
      insert key.number (← cursor).mark .flowMappingStart
    rollIndent key.mark.column (some key.number) .blockMappingStart mark
    rollOneColumn
    modify fun s => { s with keys := { key with isPossible := false } :: s.keys.drop 1 }
    allowKey false
  else
    if isImplicit then push (← cursor).mark .flowMappingStart
    if s.flowLevel = 0 then
      if ¬ s.mayBeKey then throw ⟨mark, "mapping values are not allowed in this context"⟩
      rollIndent mark.column none .blockMappingStart mark
    rollOneColumn
    allowKey (s.flowLevel == 0)
  push mark .value

/-! ## Nodes -/

/-- A name behind an ampersand or an asterisk. -/
def readAnchor (isAlias : Bool) : Scan Unit := do
  saveKey
  allowKey false
  let cursor ← cursor
  let name := (cursor.text.drop 1).takeWhile isAnchorName
  if name.isEmpty then
    throw (cursor.fault ("while scanning an anchor or alias, did not find expected " ++
      "alphabetic or numeric character"))
  goOn (cursor.skip (name.length + 1))
  push cursor.mark (if isAlias then .alias name else .anchor name)

/-- A tag. -/
def readTag : Scan Unit := do
  saveKey
  allowKey false
  let cursor ← cursor
  let (handle, name, behind) ← readTagName cursor
  let c := behind.peek 0
  if ¬ (isGap c ∨ (0 < (← get).flowLevel ∧ isFlow c)) then
    throw (cursor.fault "while scanning a tag, did not find expected whitespace or line break")
  goOn behind
  push cursor.mark (.tag handle name)

/-- A block of lines. -/
def readBlockScalar (isLiteral : Bool) : Scan Unit := do
  saveKey
  allowKey true
  unrollLoose
  let s ← get
  let (mark, text, cursor) ← readBlock isLiteral s.indent s.cursor
  goOn cursor
  push mark (.scalar false text)

/-- A text in quotes, behind which a colon may stand without white space in brackets. -/
def readQuotedScalar (isSingle : Bool) : Scan Unit := do
  saveKey
  allowKey false
  let s ← get
  let (text, behind) ← readQuoted isSingle ⟨s.indent, 0 < s.flowLevel⟩ s.cursor
  goOn behind
  toNextToken
  modify fun s => { s with adjacentAt := s.cursor.mark.index }
  push s.cursor.mark (.scalar false text)

/-- A plain text. -/
def readPlainScalar : Scan Unit := do
  saveKey
  allowKey false
  unrollLoose
  let s ← get
  let (text, behind) ← readPlain ⟨s.indent + 1, 0 < s.flowLevel⟩ s.cursor
  goOn behind
  if behind.isLeading then allowKey true
  push s.cursor.mark (.scalar true text)

/-! ## Tokens -/

/-- Reads the token at hand, which begins with a character, by that and the next one. -/
def readToken (c next : Char) : Scan Unit := do
  let s ← get
  let inFlow := 0 < s.flowLevel
  if c = '[' then openFlow .flowSequenceStart
  else if c = '\x7b' then openFlow .flowMappingStart
  else if c = ']' then closeFlow .flowSequenceEnd
  else if c = '\x7d' then closeFlow .flowMappingEnd
  else if c = ',' then flowEntry
  else if c = '-' ∧ isGap next then blockEntry
  else if c = '?' ∧ isGap next then blockKey
  else if c = ':' ∧ (isGap next ∨
      (inFlow ∧ (isFlow next ∨ s.cursor.mark.index = s.adjacentAt))) then blockValue
  else if c = '*' then readAnchor true
  else if c = '&' then readAnchor false
  else if c = '!' then readTag
  else if c = '|' ∧ ¬ inFlow then readBlockScalar true
  else if c = '>' ∧ ¬ inFlow then readBlockScalar false
  else if c = '\'' then readQuotedScalar true
  else if c = '"' then readQuotedScalar false
  else if c = '%' ∨ c = '@' ∨ c = '\x60' then
    throw (s.cursor.fault s!"unexpected character: `{c}'")
  else readPlainScalar

/-- Reads the next tokens. -/
def readNext : Scan Unit := do
  toNextToken
  dropStaleKeys
  unrollIndent (← cursor).mark.column
  modify fun s => { s with cursor := s.cursor.fetch 4 }
  let s ← get
  let cursor := s.cursor
  let atLineStart := cursor.mark.column = 0
  let c := cursor.peek 0
  if c = '\x00' then endStream
  else if atLineStart ∧ c = '%' then readDirective
  else if atLineStart ∧ cursor.isAtMark "---" then documentMark .documentStart
  else if atLineStart ∧ cursor.isAtMark "..." then endDocument
  else if (cursor.mark.column : Int) < s.indent then
    throw (cursor.fault "invalid indentation")
  else readToken c (cursor.peek 1)

/-- The next token is not certain: it is missing, or tokens may have to be put in front of
    it. -/
def isUncertain (s : Scanner) : Bool :=
  s.tokens.isEmpty || s.keys.any fun key => key.isPossible && key.number == s.taken

/-- Reads tokens until the next one is certain.  The number of steps is bounded by the length
    of the document. -/
def readCertain : Nat → Scan Unit
  | 0 => return
  | bound + 1 => do
    if ¬ (← get).tokens.isEmpty then dropStaleKeys
    if isUncertain (← get) then
      readNext
      readCertain bound

/-- Takes the next token. -/
def take : Scan Token := do
  readCertain ((← cursor).text.length + 2)
  let s ← get
  match s.tokens with
  | [] => throw (s.cursor.fault "unexpected eof")
  | token :: tokens =>
    set { s with tokens, taken := s.taken + 1 }
    return token

end Scan

/-- The beginning of a document. -/
def Scanner.start (document : List Char) : Scanner :=
  { cursor := Cursor.start document }

end TestCoverage.Yaml
