/-
  TestCoverage.Toml.Value

  The values of a TOML document.
-/
import TestCoverage.Datum

namespace TestCoverage.Toml

/-- A value.  Dates and times are kept as their normal text. -/
inductive Value where
  | string (text : String)
  | integer (value : Int)
  | float (value : Binary64)
  | boolean (value : Bool)
  | moment (text : String)
  | list (elements : List Value)
  | table (entries : List (String × Value))
deriving Repr

mutual

/-- What a value describes.  Of a date or a time only the text counts. -/
def Value.datum : Value → Datum
  | .string text | .moment text => .text text
  | .integer value => .integer value
  | .float value => .float value
  | .boolean value => .boolean value
  | .list elements => .list (elementData elements)
  | .table entries => .table (entryData entries)

/-- What the elements of a list describe. -/
def elementData : List Value → List Datum
  | [] => []
  | value :: rest => value.datum :: elementData rest

/-- What the entries of a table describe. -/
def entryData : List (String × Value) → List (String × Datum)
  | [] => []
  | (name, value) :: rest => (name, value.datum) :: entryData rest

end

/-- What a reader gives: what it has read and the text behind it, or nothing. -/
abbrev Reader (α : Type) := List Char → Option (α × List Char)

/-! ## Characters and gaps -/

/-- White space inside a line. -/
def isSpace (c : Char) : Bool :=
  c == ' ' || c == '\t'

/-- The text behind the white space. -/
def skipSpace (text : List Char) : List Char :=
  text.dropWhile isSpace

/-- The character may stand in a comment or in text without escapes: no control but the
    tab. -/
def isPlain (c : Char) : Bool :=
  c == '\t' || (0x20 ≤ c.toNat && c.toNat != 0x7F)

/-- The text behind the end of a line. -/
def newline? : List Char → Option (List Char)
  | '\n' :: rest => some rest
  | '\r' :: '\n' :: rest => some rest
  | _ => none

/-- Reads the rest of a line: white space and a comment, to the end of the line or of the
    text. -/
def lineEnd? (text : List Char) : Option (List Char) :=
  let rest := match skipSpace text with
    | '#' :: comment => comment.dropWhile isPlain
    | rest => rest
  if rest.isEmpty then some [] else newline? rest

/-- The text behind white space, line ends and comments. -/
def skipGap (inComment : Bool) : List Char → List Char
  | [] => []
  | c :: rest =>
    if inComment ∧ isPlain c then skipGap true rest
    else if isSpace c ∨ c = '\n' then skipGap false rest
    else if c = '#' then skipGap true rest
    else if c = '\r' then
      match rest with
      | '\n' :: behind => skipGap false behind
      | _ => c :: rest
    else c :: rest

end TestCoverage.Toml
