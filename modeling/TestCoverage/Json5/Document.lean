/-
  TestCoverage.Json5.Document

  JSON5: JSON with comments, names without quotes, strings in either quotes, commas behind
  the last element, and more ways to write numbers.
-/
import TestCoverage.Datum
import TestCoverage.Json5.Trail
import TestCoverage.Text.Blank
import TestCoverage.Text.Hex
import TestCoverage.Text.Letter

namespace TestCoverage.Json5

/-! ## Attempts -/

/-- Reads something from the beginning of a text, and gives it with the text behind it, or
    leaves its trail if that is in vain. -/
abbrev Reader (α : Type) := List Char → StateM Trail (Option (α × List Char))

/-- Reads what has no named parts. -/
def plainly {α : Type} (read? : List Char → Option (α × List Char)) : Reader α := fun text =>
  return read? text

/-- Reads something of a kind. -/
def tracked {α : Type} (kind : Kind) (read : Reader α) : Reader α := fun text => do
  let before ← get
  let found ← read text
  if found.isNone then modify (Trail.record kind text.length before)
  return found

/-- Reads by the first of several readers that does not fail. -/
def firstOf {α : Type} : List (Reader α) → Reader α
  | [], _ => return none
  | read :: readers, text => do
    match ← read text with
    | some found => return some found
    | none => firstOf readers text

/-! ## Gaps -/

/-- The character ends a line. -/
def isLineEnd (c : Char) : Bool :=
  c == '\n' || c == '\r' || c == '\u2028' || c == '\u2029'

/-- The character is white space. -/
def isSpace (c : Char) : Bool :=
  (Text.isBlank c && c != '\u0085') || c == '\uFEFF'

/-- The text behind the end of a block comment. -/
def commentEnd? : List Char → Option (List Char)
  | '*' :: '/' :: text => some text
  | _ :: text => commentEnd? text
  | [] => none

/-- Passes over white space and comments.  The number of gaps is bounded by the length of
    the text. -/
def skipGaps : Nat → List Char → List Char
  | 0, text => text
  | bound + 1, text =>
    match text.dropWhile isSpace with
    | '/' :: '/' :: rest => skipGaps bound (rest.dropWhile fun c => !isLineEnd c)
    | '/' :: '*' :: rest => match commentEnd? rest with
      | some behind => skipGaps bound behind
      | none => '/' :: '*' :: rest
    | rest => rest

/-- The text from the next token on. -/
def skipGap (text : List Char) : List Char :=
  skipGaps (text.length + 1) text

/-! ## Words and numbers -/

/-- Reads a word. -/
def readWord? {α : Type} (word : String) (value : α) (text : List Char) :
    Option (α × List Char) :=
  if word.toList.isPrefixOf text then some (value, text.drop word.length) else none

/-- The exponent at the beginning of a text; empty if there is none. -/
def exponentOf (text : List Char) : List Char :=
  match text with
  | c :: rest =>
    if c = 'e' ∨ c = 'E' then
      let sign := match rest with
        | '+' :: _ => ['+']
        | '-' :: _ => ['-']
        | _ => []
      let digits := (rest.drop sign.length).takeWhile Char.isDigit
      if digits.isEmpty then [] else c :: sign ++ digits
    else []
  | [] => []

/-- The number without a sign at the beginning of a text; empty if there is none. -/
def unsignedOf (text : List Char) : List Char :=
  let hex := (text.drop 2).takeWhile fun c => (Text.hexDigit? c).isSome
  let isHex := ("0x".toList.isPrefixOf text || "0X".toList.isPrefixOf text) && !hex.isEmpty
  if isHex then text.take (hex.length + 2)
  else
    let whole := match text with
      | '0' :: _ => ['0']
      | _ => text.takeWhile Char.isDigit
    match text.drop whole.length with
    | '.' :: rest =>
      let fraction := rest.takeWhile Char.isDigit
      if whole.isEmpty ∧ fraction.isEmpty then []
      else whole ++ '.' :: fraction ++ exponentOf (rest.drop fraction.length)
    | rest =>
      if ¬ whole.isEmpty then whole ++ exponentOf rest
      else if "Infinity".toList.isPrefixOf text then "Infinity".toList
      else if "NaN".toList.isPrefixOf text then "NaN".toList
      else []

/-- Reads a number as written. -/
def readNumeral? (text : List Char) : Option (List Char × List Char) :=
  let sign := match text with
    | '+' :: _ => ['+']
    | '-' :: _ => ['-']
    | _ => []
  let unsigned := unsignedOf (text.drop sign.length)
  if unsigned.isEmpty then none
  else some (sign ++ unsigned, text.drop (sign.length + unsigned.length))

/-- The value of a number.  Hexadecimal numbers have 32 bits and no sign, other integers 64
    bits, and what has a point or an exponent is finite. -/
def numberOf (numeral : List Char) : Except String Datum :=
  let text := String.ofList numeral
  let isHex := "0x".toList.isPrefixOf numeral || "0X".toList.isPrefixOf numeral
  if text = "Infinity" then .ok (.float (.infinite false))
  else if text = "-Infinity" then .ok (.float (.infinite true))
  else if text = "NaN" ∨ text = "-NaN" then .ok (.float .nan)
  else if isHex then
    match Text.hexValue? 0 (numeral.drop 2) with
    | some n => if n < Decimal.twoTo 32 then .ok (.integer n) else .error "error parsing hex"
    | none => .error "error parsing hex"
  else if numeral.contains '.' ∨ numeral.contains 'e' ∨ numeral.contains 'E' then
    match Decimal.float? numeral with
    | some x =>
      if x.isInfinite then .error "error parsing number: too large" else .ok (.float x)
    | none => .error "error parsing number"
  else match Decimal.integer? numeral with
    | some n => .ok (.integer n)
    | none => .error "error parsing integer"

/-! ## Strings and names -/

/-- The character that an escape of one letter stands for. -/
def letterEscape? (c : Char) : Option Char :=
  if c = 'b' then some '\x08'
  else if c = 'f' then some '\x0c'
  else if c = 'n' then some '\n'
  else if c = 'r' then some '\r'
  else if c = 't' then some '\t'
  else if c = 'v' then some '\x0b'
  else if c.isDigit ∨ c = 'x' ∨ c = 'u' ∨ isLineEnd c then none
  else some c

/-- A part of a string: a character, and the number that its letters write if they are
    hexadecimal digits; or a code of sixteen bits, of which a character takes one or two; or
    nothing. -/
inductive Piece where
  | char (c : Char) (number : Option Nat)
  | utf16 (code : Nat)
  | none
deriving DecidableEq, Repr

/-- The part that is a character which stands for itself. -/
def Piece.plain (c : Char) : Piece := .char c (Text.hexDigit? c)

/-- Reads so many hexadecimal digits. -/
def readHex? (count : Nat) (text : List Char) : Option (Nat × List Char) :=
  if text.length < count then none
  else (Text.hexValue? 0 (text.take count)).map fun value => (value, text.drop count)

/-- Reads a character by the two digits of its number. -/
def readByte? (text : List Char) : Option (Piece × List Char) :=
  (readHex? 2 text).map fun (value, rest) => (.char (Char.ofNat value) (some value), rest)

/-- Reads a code by its four digits. -/
def readCode? (text : List Char) : Option (Piece × List Char) :=
  (readHex? 4 text).map fun (value, rest) => (.utf16 value, rest)

/-- Reads an escape from behind its backslash. -/
def readEscape : Reader Piece :=
  firstOf [
    tracked .letterEscape (plainly fun text => match text with
      | c :: rest => (letterEscape? c).map fun d => (.char d (Text.hexDigit? c), rest)
      | [] => none),
    tracked .nulEscape (plainly (readWord? "0" (.char '\x00' (some 0)))),
    fun text => match text with
      | 'x' :: rest => tracked .hexEscape (plainly readByte?) rest
      | _ => return none,
    fun text => match text with
      | 'u' :: rest => tracked .unicodeEscape (plainly readCode?) rest
      | _ => return none]

/-- Reads one part of a string between the given quotes. -/
def readPart (quote : Char) : Reader Piece :=
  firstOf [
    fun text => match text with
      | '\\' :: rest => readEscape rest
      | _ => return none,
    plainly fun text => match text with
      | '\\' :: '\r' :: '\n' :: rest => some (.none, rest)
      | '\\' :: c :: rest => if isLineEnd c then some (.none, rest) else none
      | _ => none,
    fun text => match text with
      | c :: rest =>
        if c = quote then return none
        else tracked .plainChar
          (plainly fun _ => if c = '\\' ∨ isLineEnd c then none else some (.plain c, rest)) text
      | [] => tracked .plainChar (plainly fun _ => none) text]

/-- Reads the parts of a string.  Their number is bounded by the length of the text. -/
def readParts (quote : Char) : Nat → Reader (List Piece)
  | 0, text => return some ([], text)
  | bound + 1, text => do
    match ← readPart quote text with
    | none => return some ([], text)
    | some (part, rest) =>
      return (← readParts quote bound rest).map fun (parts, rest) => (part :: parts, rest)

/-- The number that the letters of a part write, or why they write none. -/
def Piece.number : Piece → Except String Nat
  | .char _ (some number) => .ok number
  | .utf16 code => .ok code
  | _ => .error "error parsing hex"

/-- The character of two codes, of which the first is the first half of a pair. -/
def joinHalves (high : Nat) (low : Piece) : Except String Char := do
  let low ← low.number
  if 0xDC00 ≤ low ∧ low < 0xE000 then
    return Char.ofNat (0x10000 + (high - 0xD800) * 0x400 + (low - 0xDC00))
  else throw "expecting unicode trail surrogate"

/-- The text of the parts of a string, of which none is nothing. -/
def joinPieces : List Piece → Except String (List Char)
  | [] => .ok []
  | .none :: rest => joinPieces rest
  | .char c _ :: rest => (joinPieces rest).map (c :: ·)
  | .utf16 code :: rest =>
    if code < 0xD800 ∨ 0xE000 ≤ code then (joinPieces rest).map (Char.ofNat code :: ·)
    else if 0xDC00 ≤ code then .error "unexpected unicode trail surrogate"
    else match rest with
      | [] => .error "missing unicode trail surrogate"
      | low :: rest => do
        let c ← joinHalves code low
        return c :: (← joinPieces rest)

/-- The text of the parts of a string. -/
def joinParts (parts : List Piece) : Except String (List Char) :=
  joinPieces (parts.filter (· != .none))

/-- A value, or why it cannot be represented although it is grammatical. -/
abbrev Content (α : Type) := Except String α

/-- Reads a string from its opening quote on. -/
def readQuoted : Reader (Content (List Char)) := fun text => do
  match text with
  | c :: rest =>
    if c = '"' ∨ c = '\'' then
      match ← readParts c rest.length rest with
      | some (parts, d :: behind) =>
        return if d = c then some (joinParts parts, behind) else none
      | _ => return none
    else return none
  | [] => return none

/-- The character may begin a name. -/
def isNameStart (c : Char) : Bool :=
  c == '$' || c == '_' || Text.isLetter c

/-- The character may stand in a name. -/
def isNamePart (c : Char) : Bool :=
  isNameStart c || Text.isFollower c || c == '\u200C' || c == '\u200D'

/-- Reads the characters of a name.  Their number is bounded by the length of the text. -/
def readNameParts (isFirst : Bool) : Nat → Reader (List Piece)
  | 0, text => return some ([], text)
  | bound + 1, text => do
    let part ← match text with
      | '\\' :: 'u' :: rest => tracked .unicodeEscape (plainly readCode?) rest
      | c :: rest =>
        let fits := if isFirst then isNameStart c else isNamePart c
        pure (if fits then some (.plain c, rest) else none)
      | [] => pure none
    match part with
    | none => return if isFirst then none else some ([], text)
    | some (part, rest) =>
      return (← readNameParts false bound rest).map fun (parts, rest) => (part :: parts, rest)

/-- Reads a name without quotes. -/
def readName : Reader (Content (List Char)) := fun text => do
  match ← readNameParts true (text.length + 1) text with
  | some (parts, rest) => return some (joinParts parts, rest)
  | none => return none

/-- Reads the key of a member. -/
def readKey : Reader (Content (List Char)) :=
  firstOf [tracked .name readName, tracked .string readQuoted]

/-! ## Lists and objects -/

/-- Reads more elements, each from behind a comma, and gives the text behind the last one.
    Their number is bounded by the length of the text. -/
def readMore {α : Type} (read : Reader α) : Nat → Reader (List α)
  | 0, text => return some ([], text)
  | bound + 1, text => do
    match skipGap text with
    | ',' :: rest =>
      match ← read (skipGap rest) with
      | none => return some ([], text)
      | some (element, rest) =>
        return (← readMore read bound rest).map fun (elements, rest) => (element :: elements, rest)
    | _ => return some ([], text)

/-- The text behind a closing bracket, before which a comma may stand. -/
def closed? (close : Char) (text : List Char) : Option (List Char) :=
  let text := match skipGap text with
    | ',' :: rest => skipGap rest
    | rest => rest
  match text with
  | c :: rest => if c = close then some rest else none
  | [] => none

/-- Reads elements between brackets. -/
def readBetween {α : Type} (opening close : Char) (read : Reader α) : Reader (List α) :=
  fun text => do
    match text with
    | c :: inside =>
      if c ≠ opening then return none
      match skipGap inside with
      | d :: rest =>
        if d = close then return some ([], rest)
        match ← read (d :: rest) with
        | none => return none
        | some (element, rest) =>
          match ← readMore read (rest.length + 1) rest with
          | none => return none
          | some (elements, rest) =>
            return (closed? close rest).map fun rest => (element :: elements, rest)
      | [] =>
        let _ ← read []
        return none
    | [] => return none

/-- Reads a member of an object. -/
def readMember (read : Reader (Content Datum)) : Reader (Content (String × Datum)) :=
  fun text => do
    match ← readKey text with
    | none => return none
    | some (key, rest) =>
      match skipGap rest with
      | ':' :: rest =>
        let member (value : Content Datum) : Content (String × Datum) := do
          return (String.ofList (← key), ← value)
        return (← read (skipGap rest)).map fun (value, rest) => (member value, rest)
      | _ => return none

/-- Reads something and takes it over into a datum. -/
def asDatum {α : Type} (datum : α → Content Datum) (read : Reader α) :
    Reader (Content Datum) := fun text => do
  return (← read text).map fun (value, rest) => (datum value, rest)

/-- Reads a value in which others are nested to a given depth. -/
def readValue : Nat → Reader (Content Datum)
  | 0, _ => return none
  | depth + 1, text =>
    firstOf [
      tracked .null (plainly (readWord? "null" (.ok .nothing))),
      tracked .boolean (firstOf [plainly (readWord? "true" (.ok (.boolean true))),
        plainly (readWord? "false" (.ok (.boolean false)))]),
      tracked .string
        (asDatum (fun content => content.map (.text <| String.ofList ·)) readQuoted),
      tracked .number (asDatum numberOf (plainly readNumeral?)),
      tracked .object
        (asDatum (fun members => (members.mapM id).map .ofEntries)
          (readBetween '\x7b' '\x7d' (readMember (readValue depth)))),
      tracked .array
        (asDatum (fun elements => (elements.mapM id).map .list)
          (readBetween '[' ']' (readValue depth)))] text

/-- Reads a whole document. -/
def readDocument : Reader (Content Datum) := fun document => do
  match ← readValue (document.length + 1) (skipGap document) with
  | none => return none
  | some (value, rest) =>
    tracked .documentEnd
      (plainly fun rest => if rest.isEmpty then some (value, []) else none) (skipGap rest)

/-- The data that a document describes. -/
def parse (document : List Char) : Except String Datum :=
  match (readDocument document).run ⟨document.length, []⟩ with
  | (some (value, _), _) => value
  | (none, trail) => .error (trail.message document)

end TestCoverage.Json5
