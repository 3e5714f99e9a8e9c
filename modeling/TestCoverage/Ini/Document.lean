/-
  TestCoverage.Ini.Document

  INI documents: sections of names with values, each value a text.

  A name reaches to the next equals sign or colon, a value to the end of its line.  A
  section that is begun again is emptied first.
-/
import TestCoverage.Datum
import TestCoverage.Text.Blank
import TestCoverage.Text.Hex
import TestCoverage.Text.Quoted
import TestCoverage.Text.Spot

namespace TestCoverage.Ini

/-! ## Errors -/

/-- Why a text is no INI document. -/
inductive Problem where
  | ended (stops : List Char) (mayEnd : Bool)
  | inlineComment
  | missingKey
  | noSuchCharacter
  | noLineEnd (found : Option Char)
deriving DecidableEq, Repr

/-- The character in single quotes. -/
def quotedChar (c : Char) : String :=
  let shown := if c = '\'' then ['\\', c] else if c = '"' then [c] else Text.escaped c
  String.ofList ('\'' :: shown ++ ['\''])

/-- A character that may be missing. -/
def shownChar : Option Char → String
  | some c => s!"Some({quotedChar c})"
  | none => "None"

/-- The problem in words. -/
def Problem.describe : Problem → String
  | .ended stops mayEnd =>
    let wanted := stops.map some ++ if mayEnd then [none] else []
    let wanted := ", ".intercalate (wanted.map shownChar)
    s!"expecting \"[{wanted}]\" but found EOF."
  | .inlineComment => "doesn't support inline comment"
  | .missingKey => "missing key"
  | .noSuchCharacter => "unknown character in \\xHH form"
  | .noLineEnd found => s!"expecting \"\\\\n\" but found \"{shownChar found}\"."

/-- A problem and the text from the character on at which it shows. -/
structure Fault where
  problem : Problem
  rest : List Char
deriving DecidableEq, Repr

/-- The fault in words.  The column is the one behind the character. -/
def Fault.message (document : List Char) (fault : Fault) : String :=
  let spot := Text.Spot.ofRest (fun _ => 1) document (fault.rest.drop 1)
  s!"{spot.line + 1}:{spot.column + 1} {fault.problem.describe}"

/-! ## Names and values -/

/-- The character that an escape of one letter stands for. -/
def letterEscape : Char → Char
  | '0' => '\x00'
  | 'a' => '\x07'
  | 'b' => '\x08'
  | 't' => '\t'
  | 'r' => '\r'
  | 'n' => '\n'
  | c => c

/-- The character that four hexadecimal digits name, of which the first may be a plus
    sign. -/
def hexChar? (digits : List Char) : Option Char :=
  let digits := if digits.head? = some '+' then digits.drop 1 else digits
  (Text.hexValue? 0 digits).bind fun n =>
    if n < 0xD800 ∨ 0xDFFF < n then some (Char.ofNat n) else none

/-- What is wrong with the number of a character, of which so many digits are still to come
    behind the character that the text begins with.  A backslash may be among them if a line
    end follows, which is passed over. -/
def numberFault (stops : List Char) (mayEnd : Bool) : Nat → List Char → Fault
  | 0, text => ⟨.noSuchCharacter, text⟩
  | count + 1, text =>
    match text.drop 1 with
    | [] => ⟨.ended stops mayEnd, []⟩
    | '\\' :: rest =>
      if rest.head? = some '\n' then numberFault stops mayEnd count rest
      else ⟨.noLineEnd rest.head?, rest⟩
    | c :: rest => numberFault stops mayEnd count (c :: rest)

/-- Puts a character before the text that a reader gives. -/
def cons (c : Char) (reading : Except Fault (List Char × List Char)) :
    Except Fault (List Char × List Char) :=
  reading.map fun (text, rest) => (c :: text, rest)

/-- Reads text with escapes up to one of the stops, or to the end of the document if that
    may end it.  An escaped line end is left out. -/
def readUntil (stops : List Char) (mayEnd : Bool) :
    List Char → Except Fault (List Char × List Char)
  | [] => if mayEnd then .ok ([], []) else .error ⟨.ended stops mayEnd, []⟩
  | c :: text =>
    if stops.contains c then .ok ([], c :: text)
    else if c = '\\' then
      match text with
      | [] => .error ⟨.ended stops mayEnd, []⟩
      | '\n' :: rest => readUntil stops mayEnd rest
      | 'x' :: h₁ :: h₂ :: h₃ :: h₄ :: rest =>
        match hexChar? [h₁, h₂, h₃, h₄] with
        | some d => cons d (readUntil stops mayEnd rest)
        | none => .error (numberFault stops mayEnd 4 text)
      | e :: rest =>
        if e = 'x' then .error (numberFault stops mayEnd 4 text)
        else cons (letterEscape e) (readUntil stops mayEnd rest)
    else cons c (readUntil stops mayEnd text)

/-- Reads the rest of a line. -/
def readLine (text : List Char) : Except Fault (List Char × List Char) :=
  readUntil ['\n', '\r'] true text

/-- The text behind white space inside a line. -/
def skipSpace (text : List Char) : List Char :=
  text.dropWhile fun c => Text.isBlank c && c != '\n' && c != '\r'

/-- Reads a value.  Quotes may stand around its beginning. -/
def readValue (text : List Char) : Except Fault (List Char × List Char) :=
  match skipSpace text with
  | [] => .ok ([], [])
  | c :: rest =>
    if c = '"' ∨ c = '\'' then do
      let (quoted, rest) ← readUntil [c] false rest
      let (more, rest) ← readLine (rest.drop 1)
      return (quoted ++ more, rest)
    else readLine (c :: rest)

/-! ## Documents -/

/-- What a document consists of. -/
inductive Part where
  | header (name : String)
  | entry (name value : String)
deriving DecidableEq, Repr

/-- The text without the white space around it. -/
def trimmed (text : List Char) : String :=
  String.ofList (Text.trim text)

/-- Reads the parts of a document.  `isFirst` says that nothing else stands on the line so
    far, and `name` is the name that has no value yet.  The number of parts is bounded by
    the length of the text. -/
def readParts : Nat → Bool → String → List Char → Except Fault (List Part)
  | 0, _, _, _ => .ok []
  | bound + 1, isFirst, name, text =>
    let blank := text.takeWhile Text.isBlank
    let isFirst := if blank.isEmpty then isFirst else blank.getLast? == some '\n'
    match text.drop blank.length with
    | [] => .ok []
    | c :: rest =>
      if c = ';' ∨ c = '#' then
        if isFirst then
          readParts bound true name ((rest.dropWhile (· != '\n')).drop 1)
        else .error ⟨.inlineComment, c :: rest⟩
      else if c = '[' then do
        let (title, rest) ← readUntil [']'] false rest
        let parts ← readParts bound false name (rest.drop 1)
        return .header (trimmed title) :: parts
      else if c = '=' ∨ c = ':' then
        if name = "" then .error ⟨.missingKey, c :: rest⟩
        else do
          let (value, rest) ← readValue rest
          let parts ← readParts bound false "" rest
          return .entry name (trimmed value) :: parts
      else do
        let (name, rest) ← readUntil ['=', ':'] false (c :: rest)
        readParts bound false (trimmed name) rest

/-- The entries up to the first header. -/
def entriesOf : List Part → List (String × Datum)
  | .entry name value :: rest => (name, .text value) :: entriesOf rest
  | _ => []

/-- The sections with their entries. -/
def sectionsOf : List Part → List (String × Datum)
  | [] => []
  | .header name :: rest => (name, Datum.ofEntries (entriesOf rest)) :: sectionsOf rest
  | .entry _ _ :: rest => sectionsOf rest

/-- The data that a document describes. -/
def parse (document : List Char) : Except String Datum :=
  match readParts (document.length + 1) true "" document with
  | .error fault => .error (fault.message document)
  | .ok parts => .ok (Datum.ofEntries (entriesOf parts ++ sectionsOf parts))

example : (readParts 9 true "" "a = 1\n[b]\n c:2".toList).toOption =
    some [.entry "a" "1", .header "b", .entry "c" "2"] := by decide +kernel

end TestCoverage.Ini
