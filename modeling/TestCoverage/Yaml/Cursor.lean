/-
  TestCoverage.Yaml.Cursor

  Where reading has come to in a YAML document.

  To decide what stands at a place, some characters ahead of it are fetched.  A place counts
  every fetched character as one.  The lines of a block of text are also read without
  fetching them, and then a place counts their bytes.
-/
import TestCoverage.Yaml.Token

namespace TestCoverage.Yaml

/-- What is left of a text, its place, whether only white space is before it on its line,
    and how many characters of what is left have been fetched. -/
structure Cursor where
  text : List Char
  mark : Mark
  isLeading : Bool
  fetched : Nat
deriving DecidableEq, Repr

namespace Cursor

/-- The beginning of a document. -/
def start (text : List Char) : Cursor := ⟨text, ⟨0, 1, 0⟩, true, 0⟩

/-- A fault at the cursor. -/
def fault (cursor : Cursor) (reason : String) : Fault := ⟨cursor.mark, reason⟩

/-! ## Looking ahead -/

/-- The character that stands so many characters ahead; zero behind the end of the text. -/
def peek (cursor : Cursor) (ahead : Nat) : Char :=
  (cursor.text.drop ahead).head?.getD '\x00'

/-- The cursor with at least so many characters fetched. -/
def fetch (cursor : Cursor) (count : Nat) : Cursor :=
  { cursor with fetched := max cursor.fetched count }

/-- The line begins with a mark of three characters that stands alone. -/
def isAtMark (cursor : Cursor) (mark : String) : Bool :=
  mark.toList.isPrefixOf cursor.text && isGap (cursor.peek 3)

/-- A document begins or ends here. -/
def isAtIndicator (cursor : Cursor) : Bool :=
  cursor.mark.column == 0 && (cursor.isAtMark "---" || cursor.isAtMark "...")

/-! ## Going on -/

/-- The cursor behind so many characters of its line, which are white space. -/
def skipBlanks (cursor : Cursor) (count : Nat) : Cursor :=
  { cursor with
    text := cursor.text.drop count
    mark := { cursor.mark with
      index := cursor.mark.index + count, column := cursor.mark.column + count }
    fetched := cursor.fetched - count }

/-- The cursor behind so many characters of its line. -/
def skip (cursor : Cursor) (count : Nat) : Cursor :=
  { cursor.skipBlanks count with isLeading := cursor.isLeading && count == 0 }

/-- The cursor behind the end of a line. -/
def skipBreak (cursor : Cursor) : Cursor :=
  let count := if cursor.peek 0 = '\r' ∧ cursor.peek 1 = '\n' then 2 else 1
  { text := cursor.text.drop count
    mark := ⟨cursor.mark.index + count, cursor.mark.line + 1, 0⟩
    isLeading := true
    fetched := cursor.fetched - count }

/-- The cursor behind the characters of its line that meet a condition. -/
def skipWhile (cursor : Cursor) (condition : Char → Bool) : Cursor :=
  cursor.skip (cursor.text.takeWhile condition).length

/-- The cursor behind the spaces and tabs at hand. -/
def skipAllBlanks (cursor : Cursor) : Cursor :=
  cursor.skipBlanks (cursor.text.takeWhile isBlank).length

/-- The cursor behind white space and a comment, and whether there was a space or a tab.  A
    comment needs white space in front of it. -/
def skipLineRest (cursor : Cursor) : Except Fault (Cursor × Bool × Bool) :=
  let blanks := cursor.text.takeWhile isBlank
  let behind := cursor.skipBlanks blanks.length
  let found := (blanks.contains ' ', blanks.contains '\t')
  if behind.peek 0 ≠ '#' then .ok (behind, found)
  else if blanks.isEmpty then
    .error (behind.fault "comments must be separated from other tokens by whitespace")
  else .ok (behind.skipWhile fun c => !isBreakOrEnd c, found)

/-- The rest of the line, and the cursor behind it.  Of what has not been fetched the bytes
    count, and the character that ends the line is fetched then. -/
def readLine (cursor : Cursor) : List Char × Cursor :=
  let line := cursor.text.takeWhile fun c => !isBreakOrEnd c
  let behind := cursor.text.drop line.length
  let direct := (String.ofList (line.drop cursor.fetched)).utf8ByteSize
  let count := min line.length cursor.fetched + direct
  let mark := { cursor.mark with
    index := cursor.mark.index + count, column := cursor.mark.column + count }
  let fetched :=
    if line.length < cursor.fetched then cursor.fetched - line.length
    else if behind.isEmpty then 0
    else 1
  (line, ⟨behind, mark, cursor.isLeading, fetched⟩)

end Cursor
end TestCoverage.Yaml
