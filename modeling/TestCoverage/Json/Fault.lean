/-
  TestCoverage.Json.Fault

  What can be wrong with a JSON text, and where.

  A reader that fails says how far it had come by the text that was still ahead of it.
  The place in the document follows from the lengths, so that no reader counts lines or
  columns, and a reader's result on a text does not depend on what came before.
-/
import TestCoverage.Decimal.Written
import TestCoverage.Text.Quoted
import TestCoverage.Text.Utf8

namespace TestCoverage.Json

/-! ## Causes -/

/-- A value met where another kind of value was wanted. -/
inductive Found where
  | null
  | boolean (value : Bool)
  | integer (value : Int)
  | float (value : Binary64)
  | string (text : List Char)
  | sequence
  | map
deriving DecidableEq, Repr

/-- The value as an error names it. -/
def Found.describe : Found → String
  | .null => "null"
  | .boolean value => s!"boolean `{value}`"
  | .integer value => s!"integer `{value}`"
  | .float value => s!"floating point `{String.ofList value.exact}`"
  | .string text => s!"string {Text.quoted text}"
  | .sequence => "sequence"
  | .map => "map"

/-- The ways in which a text is not what was wanted. -/
inductive Problem where
  | eofValue
  | eofObject
  | eofList
  | eofString
  | expectedIdent
  | expectedValue
  | expectedColon
  | expectedListCommaOrEnd
  | expectedObjectCommaOrEnd
  | keyMustBeString
  | trailingComma
  | trailingCharacters
  | controlCharacter
  | invalidEscape
  | loneSurrogate
  | unfinishedPair
  | invalidNumber
  | numberOutOfRange
  | tooDeep
  | wrongType (found : Found) (expected : String)
  | duplicateField (name : String)
deriving DecidableEq, Repr

/-- The problem in words. -/
def Problem.describe : Problem → String
  | .eofValue => "EOF while parsing a value"
  | .eofObject => "EOF while parsing an object"
  | .eofList => "EOF while parsing a list"
  | .eofString => "EOF while parsing a string"
  | .expectedIdent => "expected ident"
  | .expectedValue => "expected value"
  | .expectedColon => "expected `:`"
  | .expectedListCommaOrEnd => "expected `,` or `]`"
  | .expectedObjectCommaOrEnd => "expected `,` or `\x7d`"
  | .keyMustBeString => "key must be a string"
  | .trailingComma => "trailing comma"
  | .trailingCharacters => "trailing characters"
  | .controlCharacter => "control character (\\u0000-\\u001F) found while parsing a string"
  | .invalidEscape => "invalid escape"
  | .loneSurrogate => "lone leading surrogate in hex escape"
  | .unfinishedPair => "unexpected end of hex escape"
  | .invalidNumber => "invalid number"
  | .numberOutOfRange => "number out of range"
  | .tooDeep => "recursion limit exceeded"
  | .wrongType found expected => s!"invalid type: {found.describe}, expected {expected}"
  | .duplicateField name => s!"duplicate field `{name}`"

/-! ## Places -/

/-- A problem, the text that was still ahead, and how many bytes of that text count as
    read when the place is named. -/
structure Fault where
  problem : Problem
  rest : List Char
  ahead : Nat
deriving DecidableEq, Repr

/-- The problem lies with what has been read. -/
def Fault.here (problem : Problem) (rest : List Char) : Fault :=
  ⟨problem, rest, 0⟩

/-- The problem lies with the byte that comes next. -/
def Fault.next (problem : Problem) (rest : List Char) : Fault :=
  ⟨problem, rest, 1⟩

/-- A place in a document: lines count from one, columns are bytes since the line began. -/
structure Position where
  line : Nat
  column : Nat
deriving DecidableEq, Repr

/-- The place reached from `here` by reading so many bytes of the text. -/
def Position.advance (here : Position) : List Char → Nat → Position
  | [], _ => here
  | c :: text, bytes =>
    if bytes = 0 then here
    else if c = '\n' then Position.advance ⟨here.line + 1, 0⟩ text (bytes - 1)
    else
      Position.advance ⟨here.line, here.column + min bytes c.utf8Size⟩ text
        (bytes - c.utf8Size)

/-- The place of a fault in the document that was read. -/
def Fault.position (document : List Char) (fault : Fault) : Position :=
  Position.advance ⟨1, 0⟩ document
    (Utf8.size document - Utf8.size fault.rest + fault.ahead)

/-- A problem with its place in a document. -/
structure Error where
  problem : Problem
  position : Position
deriving DecidableEq, Repr

/-- The error of a fault in a document. -/
def Fault.locate (document : List Char) (fault : Fault) : Error :=
  ⟨fault.problem, fault.position document⟩

/-- The error in words. -/
def Error.message (error : Error) : String :=
  s!"{error.problem.describe} at line {error.position.line} column {error.position.column}"

/-- What a reader gives: a value and the text behind it, or a fault. -/
abbrev Reading (α : Type) := Except Fault (α × List Char)

end TestCoverage.Json
