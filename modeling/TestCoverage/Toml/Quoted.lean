/-
  TestCoverage.Toml.Quoted

  Strings: with escapes or literal, on one line or on several.
-/
import TestCoverage.Text.Hex
import TestCoverage.Toml.Value

namespace TestCoverage.Toml

/-- Puts a character before the string that a reader gives. -/
def cons (c : Char) (reading : Option (List Char × List Char)) :
    Option (List Char × List Char) :=
  reading.map fun (text, rest) => (c :: text, rest)

/-- The character that an escape of one letter stands for. -/
def letterEscape? : Char → Option Char
  | 'b' => some '\x08'
  | 't' => some '\t'
  | 'n' => some '\n'
  | 'f' => some '\x0c'
  | 'r' => some '\r'
  | '"' => some '"'
  | '\\' => some '\\'
  | _ => none

/-- The character with a number, unless that is a surrogate or too large. -/
def scalar? (n : Nat) : Option Char :=
  if n < 0xD800 ∨ (0xDFFF < n ∧ n < 0x110000) then some (Char.ofNat n) else none

/-- The character that hexadecimal digits name. -/
def hexChar? (digits : List Char) : Option Char :=
  (Text.hexValue? 0 digits).bind scalar?

/-! ## Strings on one line -/

/-- Reads a string with escapes from behind its opening quote. -/
def readBasic : List Char → Option (List Char × List Char)
  | [] => none
  | c :: text =>
    if c = '"' then some ([], text)
    else if c = '\\' then
      match text with
      | 'u' :: a :: b :: c :: d :: rest =>
        match hexChar? [a, b, c, d] with
        | some char => cons char (readBasic rest)
        | none => none
      | 'U' :: a :: b :: c :: d :: e :: f :: g :: h :: rest =>
        match hexChar? [a, b, c, d, e, f, g, h] with
        | some char => cons char (readBasic rest)
        | none => none
      | e :: rest =>
        match letterEscape? e with
        | some char => cons char (readBasic rest)
        | none => none
      | [] => none
    else if isPlain c then cons c (readBasic text)
    else none

/-- Reads a literal string from behind its opening quote. -/
def readLiteral (text : List Char) : Option (List Char × List Char) :=
  let inside := text.takeWhile fun c => c != '\'' && isPlain c
  match text.drop inside.length with
  | '\'' :: rest => some (inside, rest)
  | _ => none

/-! ## Strings on several lines -/

/-- At a quote inside a long string: three end it, and up to two more before them belong to
    it.  Gives those and the text behind, or nothing if the string goes on. -/
def closing? (quote : Char) (text : List Char) : Option (List Char × List Char) :=
  match (text.takeWhile (· == quote)).length with
  | 0 | 1 | 2 => none
  | 3 => some ([], text.drop 3)
  | 4 => some ([quote], text.drop 4)
  | _ => some ([quote, quote], text.drop 5)

/-- A backslash whose line holds nothing more joins the lines. -/
def joinsLines (text : List Char) : Bool :=
  (newline? (skipSpace text)).isSome

/-- Reads a long string with escapes from behind its opening quotes.  While `joining`, white
    space and line ends are left out. -/
def readLongBasic (joining : Bool) : List Char → Option (List Char × List Char)
  | [] => none
  | c :: text =>
    if joining ∧ (isSpace c ∨ c = '\n') then readLongBasic true text
    else if c = '\r' then
      match text with
      | '\n' :: rest =>
        if joining then readLongBasic true rest else cons '\n' (readLongBasic false rest)
      | _ => none
    else if c = '"' then
      match closing? '"' (c :: text) with
      | some found => some found
      | none => cons c (readLongBasic false text)
    else if c = '\\' then
      if joinsLines text then readLongBasic true text
      else match text with
      | 'u' :: a :: b :: c :: d :: rest =>
        match hexChar? [a, b, c, d] with
        | some char => cons char (readLongBasic false rest)
        | none => none
      | 'U' :: a :: b :: c :: d :: e :: f :: g :: h :: rest =>
        match hexChar? [a, b, c, d, e, f, g, h] with
        | some char => cons char (readLongBasic false rest)
        | none => none
      | e :: rest =>
        match letterEscape? e with
        | some char => cons char (readLongBasic false rest)
        | none => none
      | [] => none
    else if isPlain c ∨ c = '\n' then cons c (readLongBasic false text)
    else none

/-- Reads a long literal string from behind its opening quotes. -/
def readLongLiteral : List Char → Option (List Char × List Char)
  | [] => none
  | c :: text =>
    if c = '\r' then
      match text with
      | '\n' :: rest => cons '\n' (readLongLiteral rest)
      | _ => none
    else if c = '\'' then
      match closing? '\'' (c :: text) with
      | some found => some found
      | none => cons c (readLongLiteral text)
    else if isPlain c ∨ c = '\n' then cons c (readLongLiteral text)
    else none

/-- The text without a line end at its beginning. -/
def afterNewline (text : List Char) : List Char :=
  (newline? text).getD text

/-- Reads a string on one line. -/
def readShortString : List Char → Option (List Char × List Char)
  | '"' :: text => readBasic text
  | '\'' :: text => readLiteral text
  | _ => none

/-- Reads a string of any of the four kinds. -/
def readString : List Char → Option (List Char × List Char)
  | '"' :: '"' :: '"' :: text => readLongBasic false (afterNewline text)
  | '\'' :: '\'' :: '\'' :: text => readLongLiteral (afterNewline text)
  | text => readShortString text

example : readString "\"a\\u00e9\" x".toList = some ("aé".toList, " x".toList) := by decide +kernel
example : readString "'lit\\n'".toList = some ("lit\\n".toList, []) := by decide +kernel
example : readString "\"\"\"a\\\n   b\"\"\"".toList = some ("ab".toList, []) := by decide +kernel
example : readString "\"\"\"a\"\"q\"\"\"\" ".toList = some ("a\"\"q\"".toList, [' ']) := by
  decide +kernel
example : readString "\"\\e\"".toList = none := by decide +kernel

end TestCoverage.Toml
