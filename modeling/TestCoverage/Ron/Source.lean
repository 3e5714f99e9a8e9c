/-
  TestCoverage.Ron.Source

  Where reading has come to in a RON document, and what can be wrong there.

  Columns are bytes and count from one.
-/
import TestCoverage.Text.Quoted

namespace TestCoverage.Ron

/-! ## Problems -/

/-- Why a text is no RON document. -/
inductive Problem where
  | ended
  | expected (what : String)
  | escape (reason : String)
  | unexpected (byte : Char)
  | rawName (name : List Char)
  | noSuchExtension (name : List Char)
  | underscoreInFloat
  | unclosedComment
  | trailing
  | tooDeep
deriving DecidableEq, Repr

/-- The character may begin a name. -/
def isNameStart (c : Char) : Bool :=
  c.isAlpha || c == '_'

/-- The character may stand in a name. -/
def isNamePart (c : Char) : Bool :=
  c.isAlphanum || c == '_'

/-- The character may stand in a raw name. -/
def isRawNamePart (c : Char) : Bool :=
  isNamePart c || c == '.' || c == '+' || c == '-'

/-- A name as it is written: as a raw one if it needs that. -/
def writtenName (name : List Char) : String :=
  let isPlain := (name.head?.map isNameStart).getD false && name.all isNamePart
  (if isPlain then "" else "r#") ++ String.ofList name

/-- The problem in words. -/
def Problem.describe : Problem → String
  | .ended => "Unexpected end of RON"
  | .expected what => s!"Expected {what}"
  | .escape reason => reason
  | .unexpected c =>
    let shown := if c = '\'' then ['\\', '\''] else if c = '"' then [c] else Text.escaped c
    s!"Unexpected byte '{String.ofList shown}'"
  | .rawName name =>
    let name := String.ofList name
    s!"Found invalid std identifier `{name}`, try the raw identifier `r#{name}` instead"
  | .noSuchExtension name => s!"No RON extension named `{writtenName name}`"
  | .underscoreInFloat => "Unexpected underscore in float"
  | .unclosedComment => "Unclosed block comment"
  | .trailing => "Non-whitespace trailing characters"
  | .tooDeep =>
    "Exceeded recursion limit, try increasing the limit and using `serde_stacker` to " ++
      "protect against a stack overflow"

/-! ## Places -/

/-- What is left of a document, and the place where that begins. -/
structure Source where
  text : List Char
  line : Nat
  column : Nat
deriving DecidableEq, Repr

/-- A problem and the place where it was noticed. -/
structure Fault where
  problem : Problem
  source : Source
deriving DecidableEq, Repr

/-- The fault in words. -/
def Fault.message (fault : Fault) : String :=
  s!"{fault.source.line}:{fault.source.column}: {fault.problem.describe}"

/-- Reads something from the beginning of a text, and goes behind it. -/
abbrev Reader (α : Type) := Source → Except Fault (α × Source)

namespace Source

/-- The beginning of a document. -/
def start (document : List Char) : Source := ⟨document, 1, 1⟩

/-- The place behind a character. -/
def next (source : Source) (c : Char) : Source :=
  if c = '\n' then { source with line := source.line + 1, column := 1 }
  else { source with column := source.column + c.utf8Size }

/-- The source behind so many characters. -/
def skip (source : Source) (count : Nat) : Source :=
  { (source.text.take count).foldl next source with text := source.text.drop count }

/-- The source with its place moved by some columns. -/
def shift (source : Source) (columns : Nat) : Source :=
  { source with column := source.column + columns }

/-- The source behind the first byte of its next character. -/
def skipByte (source : Source) : Source :=
  match source.text with
  | c :: _ => if c.utf8Size = 1 then source.skip 1 else source.shift 1
  | [] => source

/-- A problem at this place. -/
def fail {α : Type} (source : Source) (problem : Problem) : Except Fault α :=
  .error ⟨problem, source⟩

/-- The characters at the beginning that meet a condition, and the source behind them. -/
def takeWhile (source : Source) (condition : Char → Bool) : List Char × Source :=
  let taken := source.text.takeWhile condition
  (taken, source.skip taken.length)

/-- The source behind a sign, if it begins with that. -/
def after? (source : Source) (sign : String) : Option Source :=
  if sign.toList.isPrefixOf source.text then some (source.skip sign.length) else none

/-- The next character may stand in a name. -/
def isAtNamePart (source : Source) : Bool :=
  (source.text.head?.map isNamePart).getD false

/-- The source behind a word, if it begins with the whole word. -/
def afterWord? (source : Source) (word : String) : Option Source :=
  (source.after? word).filter fun rest => !rest.isAtNamePart

end Source

example : ((Source.start "a\nbc".toList).skip 3).column = 2 := by decide

end TestCoverage.Ron
