/-
  TestCoverage.Toml.Statement

  The statements of a TOML document: headers, and keys with their values.

  Values nest less than eighty deep, and a key has fewer than eighty parts.
-/
import TestCoverage.Toml.Moment
import TestCoverage.Toml.Number
import TestCoverage.Toml.Quoted

namespace TestCoverage.Toml

/-- A key: its parts in order.  There is at least one. -/
abbrev Key := List String

/-- The bound on the depth of values and on the parts of a key. -/
def depthLimit : Nat := 80

/-! ## Keys -/

/-- The character may stand in a key without quotes. -/
def isBare (c : Char) : Bool :=
  c.isAlphanum || c == '-' || c == '_'

/-- Reads one part of a key, with the white space around it. -/
def readKeyPart : Reader String := fun text =>
  let text := skipSpace text
  let part := match text with
    | [] => none
    | c :: _ =>
      if c = '"' ∨ c = '\'' then readShortString text
      else if isBare c then some (text.takeWhile isBare, text.dropWhile isBare)
      else none
  part.map fun (part, rest) => (String.ofList part, skipSpace rest)

/-- Reads the parts of a key with points between them, at most so many. -/
def readKeyParts : Nat → Reader Key
  | 0, _ => none
  | limit + 1, text =>
    match readKeyPart text with
    | none => none
    | some (part, '.' :: rest) =>
      (readKeyParts limit rest).map fun (parts, rest) => (part :: parts, rest)
    | some (part, rest) => some ([part], rest)

/-- Reads a key. -/
def readKey : Reader Key :=
  readKeyParts (depthLimit - 1)

/-! ## Tables on one line -/

/-- A table whose entries are still being collected: what each key stands for is a value,
    or a table that came from the first parts of longer keys. -/
inductive Inline where
  | value (value : Value)
  | dotted (entries : List (String × Inline))

/-- Adds an entry to a table on one line.  A table that is written out is complete: a longer
    key cannot add to it, and no key is given twice. -/
def Inline.add (key : Key) (value : Value) (entries : List (String × Inline)) :
    Option (List (String × Inline)) :=
  match key with
  | [] => none
  | [last] =>
    if entries.any (·.1 == last) then none else some (entries ++ [(last, .value value)])
  | part :: rest =>
    match entries.find? (·.1 == part) with
    | none => (Inline.add rest value []).map fun inner => entries ++ [(part, .dotted inner)]
    | some (_, .value _) => none
    | some (_, .dotted inner) =>
      (Inline.add rest value inner).map fun inner =>
        entries.map fun (name, old) =>
          if name == part then (name, .dotted inner) else (name, old)

mutual

/-- The value of a table's entry. -/
def Inline.toValue : Inline → Value
  | .value v => v
  | .dotted entries => .table (Inline.toValues entries)

/-- The values of a table's entries. -/
def Inline.toValues : List (String × Inline) → List (String × Value)
  | [] => []
  | (name, entry) :: entries => (name, entry.toValue) :: Inline.toValues entries

end

/-! ## Values -/

/-- Reads the given letters. -/
def readLetters : List Char → List Char → Option (List Char)
  | [], text => some text
  | _ :: _, [] => none
  | letter :: letters, c :: text => if c = letter then readLetters letters text else none

/-- Reads a value that holds no others. -/
def readScalar : Reader Value := fun text =>
  match text with
  | [] => none
  | c :: rest =>
    if c = '"' ∨ c = '\'' then
      (readString text).map fun (text, rest) => (.string (String.ofList text), rest)
    else if c = 't' then
      (readLetters ['r', 'u', 'e'] rest).map (.boolean true, ·)
    else if c = 'f' then
      (readLetters ['a', 'l', 's', 'e'] rest).map (.boolean false, ·)
    else if startsDate text ∨ startsTime text then
      (readMoment text).map fun (moment, rest) => (.moment (String.ofList moment), rest)
    else readNumber text

/-- Reads the elements of a list and its closing bracket.  Their number is bounded by the
    length of the text. -/
def readElements (read : Reader Value) : Nat → Reader (List Value)
  | 0, _ => none
  | bound + 1, text =>
    match skipGap false text with
    | ']' :: rest => some ([], rest)
    | text =>
      match read text with
      | none => none
      | some (value, rest) =>
        match skipGap false rest with
        | ']' :: rest => some ([value], rest)
        | ',' :: rest =>
          (readElements read bound rest).map fun (values, rest) => (value :: values, rest)
        | _ => none

/-- Reads a key, an equals sign and a value, with the white space around them. -/
def readEntry (read : Reader Value) : Reader (Key × Value) := fun text =>
  match readKey text with
  | some (key, '=' :: rest) =>
    (read (skipSpace rest)).map fun (value, rest) => ((key, value), skipSpace rest)
  | _ => none

/-- Reads the entries of a table on one line and its closing brace, from behind the opening
    brace or a comma. -/
def readEntries (read : Reader Value) :
    Nat → List (String × Inline) → Reader (List (String × Inline))
  | 0, _, _ => none
  | bound + 1, entries, text =>
    match readEntry read text with
    | none => none
    | some ((key, value), rest) =>
      match Inline.add key value entries with
      | none => none
      | some entries =>
        match rest with
        | ',' :: rest => readEntries read bound entries rest
        | '\x7d' :: rest => some (entries, rest)
        | _ => none

/-- Reads a table on one line from behind its opening brace. -/
def readInlineTable (read : Reader Value) : Reader Value := fun text =>
  match skipSpace text with
  | '\x7d' :: rest => some (.table [], rest)
  | text =>
    (readEntries read text.length [] text).map fun (entries, rest) =>
      (.table (Inline.toValues entries), rest)

/-- Reads a value that holds others to a given depth. -/
def readNested : Nat → Reader Value
  | 0, text => readScalar text
  | depth + 1, text =>
    match text with
    | '[' :: rest =>
      (readElements (readNested depth) (rest.length + 1) rest).map fun (values, rest) =>
        (.list values, rest)
    | '\x7b' :: rest => readInlineTable (readNested depth) rest
    | _ => readScalar text

/-- Reads a value. -/
def readValue : Reader Value :=
  readNested (depthLimit - 1)

/-! ## Statements -/

/-- A statement of a document. -/
inductive Statement where
  | entry (key : Key) (value : Value)
  | table (key : Key)
  | element (key : Key)
deriving Repr

/-- Reads a header from behind its first bracket. -/
def readHeader : Reader Statement := fun text =>
  match text with
  | '[' :: text =>
    match readKey text with
    | some (key, ']' :: ']' :: rest) => (lineEnd? rest).map (.element key, ·)
    | _ => none
  | _ =>
    match readKey text with
    | some (key, ']' :: rest) => (lineEnd? rest).map (.table key, ·)
    | _ => none

/-- Reads a key and its value, to the end of the line. -/
def readAssignment : Reader Statement := fun text =>
  match readEntry readValue text with
  | none => none
  | some ((key, value), rest) => (lineEnd? rest).map (.entry key value, ·)

/-- Reads the statements of a document, which are no more than its characters. -/
def readStatements : Nat → List Char → Option (List Statement)
  | 0, _ => none
  | bound + 1, text =>
    match skipSpace text with
    | [] => some []
    | c :: rest =>
      if c = '#' ∨ c = '\n' ∨ c = '\r' then
        match lineEnd? (c :: rest) with
        | none => none
        | some rest => readStatements bound rest
      else
        match if c = '[' then readHeader rest else readAssignment (c :: rest) with
        | none => none
        | some (statement, rest) => (readStatements bound rest).map (statement :: ·)

/-- The statements of a text.  A byte order mark at its beginning is no part of them. -/
def statements? (text : List Char) : Option (List Statement) :=
  let text := match text with
    | '\uFEFF' :: rest => rest
    | _ => text
  readStatements (text.length + 1) text

end TestCoverage.Toml
