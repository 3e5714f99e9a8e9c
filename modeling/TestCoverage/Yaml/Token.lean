/-
  TestCoverage.Yaml.Token

  The tokens of YAML, the places where they stand, and the kinds of characters.
-/

namespace TestCoverage.Yaml

/-! ## Places and faults -/

/-- A place in a text: how many characters are before it, its line, counted from one, and
    how many characters of the line are before it. -/
structure Mark where
  index : Nat
  line : Nat
  column : Nat
deriving DecidableEq, Repr

/-- What is wrong with a document, and where. -/
structure Fault where
  mark : Mark
  reason : String
deriving DecidableEq, Repr

/-- The fault in words. -/
def Fault.message (fault : Fault) : String :=
  s!"{fault.reason} at byte {fault.mark.index} line {fault.mark.line} " ++
    s!"column {fault.mark.column + 1}"

/-! ## Tokens -/

/-- What a token is. -/
inductive Kind where
  | streamEnd
  | version
  | tagPrefix (handle text : List Char)
  | documentStart
  | documentEnd
  | blockSequenceStart
  | blockMappingStart
  | blockEnd
  | flowSequenceStart
  | flowSequenceEnd
  | flowMappingStart
  | flowMappingEnd
  | blockEntry
  | flowEntry
  | key
  | value
  | alias (name : List Char)
  | anchor (name : List Char)
  | tag (handle suffix : List Char)
  | scalar (isPlain : Bool) (text : List Char)
deriving DecidableEq, Repr

/-- A token and the place where it begins. -/
structure Token where
  mark : Mark
  kind : Kind
deriving DecidableEq, Repr

/-! ## Characters -/

/-- The character ends a line. -/
def isBreak (c : Char) : Bool :=
  c == '\n' || c == '\r'

/-- The character is white space inside a line. -/
def isBlank (c : Char) : Bool :=
  c == ' ' || c == '\t'

/-- The character ends a line or the text. -/
def isBreakOrEnd (c : Char) : Bool :=
  isBreak c || c == '\x00'

/-- The character separates tokens. -/
def isGap (c : Char) : Bool :=
  isBlank c || isBreakOrEnd c

/-- The character has a meaning in lists and maps that are written in brackets. -/
def isFlow (c : Char) : Bool :=
  c == ',' || c == '[' || c == ']' || c == '\x7b' || c == '\x7d'

/-- The character may stand in the name of a directive or in the handle of a tag. -/
def isWord (c : Char) : Bool :=
  c.isAlphanum || c == '_' || c == '-'

/-- The character may stand in the address that names a tag. -/
def isAddress (c : Char) : Bool :=
  isWord c || "#;/?:@&=+$,.!~*'()[]%".toList.contains c

/-- The character may stand in the name of a tag that is written without brackets. -/
def isTagName (c : Char) : Bool :=
  isAddress c && !isFlow c && c != '!'

/-- The character may stand in the name of an anchor. -/
def isAnchorName (c : Char) : Bool :=
  !isGap c && !isFlow c && c != '\uFEFF'

end TestCoverage.Yaml
