/-
  TestCoverage.Ron.Token

  The gaps, names, numbers and strings of RON.
-/
import TestCoverage.Decimal.Reading
import TestCoverage.Ron.Source
import TestCoverage.Ron.Value
import TestCoverage.Text.Hex
import TestCoverage.Text.Utf8

namespace TestCoverage.Ron

/-! ## Gaps -/

/-- What of a gap is being passed over; comments may be nested in block comments. -/
inductive Gap where
  | space
  | line
  | block (depth : Nat)

/-- The first byte of a character, as a character. -/
def firstByte (c : Char) : Char :=
  ((Utf8.encode [c]).head?.map fun b => Char.ofNat b.toNat).getD c

/-- A measured gap with so many more characters in front. -/
def longer (count : Nat) (gap : Nat × Option Problem) : Nat × Option Problem :=
  (count + gap.1, gap.2)

/-- The number of characters of white space and comments, and the problem behind them if
    there is one. -/
def measureGap : Gap → List Char → Nat × Option Problem
  | .space, [] | .line, [] => (0, none)
  | .block _, [] => (0, some .unclosedComment)
  | .space, c :: text =>
    if c = ' ' ∨ c = '\n' ∨ c = '\t' ∨ c = '\r' then longer 1 (measureGap .space text)
    else if c = '/' then
      match text with
      | '/' :: rest => longer 2 (measureGap .line rest)
      | '*' :: rest => longer 2 (measureGap (.block 0) rest)
      | d :: _ => (1, some (.unexpected (firstByte d)))
      | [] => (1, some .ended)
    else (0, none)
  | .line, c :: text => longer 1 (measureGap (if c = '\n' then .space else .line) text)
  | .block depth, '*' :: '/' :: text =>
    longer 2 (measureGap (if depth = 0 then .space else .block (depth - 1)) text)
  | .block depth, '/' :: '*' :: text => longer 2 (measureGap (.block (depth + 1)) text)
  | .block depth, _ :: text => longer 1 (measureGap (.block depth) text)

/-- Passes over white space and comments. -/
def skipGap (source : Source) : Except Fault Source :=
  let (count, problem) := measureGap .space source.text
  match problem with
  | none => .ok (source.skip count)
  | some problem => (source.skip count).skipByte.fail problem

/-- Passes over a comma and the gaps around it; says if there is one. -/
def readComma : Reader Bool := fun source => do
  let source ← skipGap source
  match source.after? "," with
  | some rest => return (true, ← skipGap rest)
  | none => return (false, source)

/-! ## Names -/

/-- Reads a name that is not marked as raw.  No raw name may be hidden in it. -/
def readPlainName : Reader (List Char) := fun source =>
  let raw := source.text.takeWhile isRawNamePart
  let name := source.text.takeWhile isNamePart
  if name.length < raw.length then source.fail (.rawName raw)
  else .ok (name, source.skip name.length)

/-- Reads a name.  What begins a raw string is no name. -/
def readName : Reader (List Char) := fun source =>
  match source.text with
  | [] | ['r'] => source.fail .ended
  | 'r' :: '"' :: _ => source.fail (.expected "identifier")
  | 'r' :: '#' :: text =>
    if (text.head?.map isRawNamePart).getD false then
      .ok ((source.skip 2).takeWhile isRawNamePart)
    else source.fail (.expected "identifier")
  | c :: text =>
    if isNameStart c then readPlainName source
    else if isRawNamePart c then source.fail (.rawName ((c :: text).takeWhile isRawNamePart))
    else source.fail (.expected "identifier")

/-! ## Numbers -/

/-- The character may stand in a floating-point number. -/
def isFloatPart (c : Char) : Bool :=
  c.isDigit || c == 'e' || c == 'E' || c == '.' || c == '+' || c == '-' || c == '_'

/-- The character may stand in an integer. -/
def isIntegerPart (c : Char) : Bool :=
  (Text.hexDigit? c).isSome || c == '_'

/-- Reads a floating-point number, in which no underscore may stand. -/
def readFloat : Reader Value := fun source =>
  let (digits, rest) := source.takeWhile isFloatPart
  if digits.contains '_' then
    (source.takeWhile fun c => c != '_').2.fail .underscoreInFloat
  else match Decimal.float? digits with
    | some value => .ok (.float value, rest)
    | none => rest.fail (.expected "float")

/-- The base of an integer and its digits. -/
def splitBase : List Char → Nat × List Char
  | '0' :: 'x' :: rest => (16, rest)
  | '0' :: 'b' :: rest => (2, rest)
  | '0' :: 'o' :: rest => (8, rest)
  | text => (10, text)

/-- The number that digits of a base write. -/
def magnitude? (base : Nat) (digits : List Char) : Option Nat :=
  digits.foldlM (fun n c => do
    let digit ← Text.hexDigit? c
    if digit < base then some (n * base + digit) else none) 0

/-- The value of an integer.  Without a sign it has 64 bits, and becomes floating point if
    it does not fit into 64 bits with a sign. -/
def integer? (isSigned negative : Bool) (base : Nat) (digits : List Char) : Option Value := do
  let n ← magnitude? base (digits.filter (· != '_'))
  match Decimal.int64? negative n with
  | some value => some (.integer value)
  | none => if isSigned ∨ Decimal.twoTo 64 ≤ n then none else some (.float (.ofNat n))

/-- Reads an integer, or else a floating-point number.  The place does not go back over what
    has been tried as an integer. -/
def readInteger : Reader Value := fun source =>
  let (negative, unsigned) := Decimal.splitSign source.text
  let (base, text) := splitBase unsigned
  let digits := text.takeWhile isIntegerPart
  let before := source.text.length - text.length
  let tried := before + digits.length
  if digits.isEmpty ∨ digits.head? = some '_' then readFloat (source.shift before)
  else match integer? (unsigned.length < source.text.length) negative base digits with
    | some value => .ok (value, source.skip tried)
    | none => readFloat (source.shift tried)

/-- Reads a number. -/
def readNumber : Reader Value := fun source =>
  let unsigned := (Decimal.splitSign source.text).2
  if (unsigned.takeWhile isIntegerPart).length < (unsigned.takeWhile isFloatPart).length then
    readFloat source
  else readInteger source

/-! ## Strings and characters -/

/-- A hexadecimal digit that is none. -/
def notHex : Problem := .escape "Non-hex digit found"

/-- Reads so many hexadecimal digits behind a number that is already read, or fewer up to a
    closing brace if that may end them. -/
def readHex (mayEnd : Bool) (value : Nat) : Nat → Reader Nat
  | 0, source => .ok (value, source)
  | count + 1, source =>
    match source.text with
    | [] => source.fail .ended
    | c :: _ =>
      if mayEnd ∧ c = '\x7d' then .ok (value, source)
      else match Text.hexDigit? c with
        | some digit => readHex mayEnd (value * 16 + digit) count (source.skip 1)
        | none => source.skipByte.fail notHex

/-- Passes over one byte, which has to be a given character. -/
def skipChar (c : Char) (problem : Problem) (source : Source) : Except Fault Source :=
  if source.text.isEmpty then source.fail .ended
  else if source.text.head? = some c then .ok (source.skip 1)
  else source.skipByte.fail problem

/-- Reads the number of a character in braces. -/
def readBraced : Reader Char := fun source => do
  let source ← skipChar '\x7b' (.escape "Missing \x7b in Unicode escape") source
  let (value, rest) ← readHex true 0 6 source
  if rest.text.length = source.text.length then
    rest.fail (.escape "Expected 1-6 digits, got 0 digits in Unicode escape")
  let rest ← skipChar '\x7d' (.escape "No \x7d at the end of Unicode escape") rest
  if value < 0xD800 ∨ (0xDFFF < value ∧ value < 0x110000) then return (Char.ofNat value, rest)
  else rest.fail (.escape "Not a valid Unicode-escaped character")

/-- The character that an escape of one letter stands for. -/
def letterEscape? : Char → Option Char
  | '\'' => some '\''
  | '"' => some '"'
  | '\\' => some '\\'
  | 'n' => some '\n'
  | 'r' => some '\r'
  | 't' => some '\t'
  | '0' => some '\x00'
  | _ => none

/-- Reads what follows a backslash. -/
def readEscape : Reader Char := fun source =>
  match source.text with
  | [] => source.fail .ended
  | c :: _ =>
    match letterEscape? c with
    | some d => .ok (d, source.skip 1)
    | none =>
      if c = 'x' then
        (readHex false 0 2 (source.skip 1)).map fun (value, rest) => (Char.ofNat value, rest)
      else if c = 'u' then readBraced (source.skip 1)
      else source.skipByte.fail (.escape "Unknown escape character")

/-- Reads a string from behind its opening quote on.  It is read in pieces between escapes,
    whose number is bounded. -/
def readQuoted : Nat → Bool → Reader (List Char)
  | 0, _, source => source.fail .ended
  | bound + 1, isFirst, source =>
    let (plain, rest) := source.takeWhile fun c => c != '"' && c != '\\'
    match rest.text with
    | '"' :: _ => .ok (plain, rest.skip 1)
    | '\\' :: _ => do
      let (c, rest) ← readEscape (rest.skip 1)
      let (more, rest) ← readQuoted bound false rest
      return (plain ++ c :: more, rest)
    | _ => source.fail (if isFirst then .expected "end of string" else .ended)

/-- The text before a mark. -/
def textBefore? (mark : List Char) : List Char → Option (List Char)
  | [] => none
  | c :: text =>
    if mark.isPrefixOf (c :: text) then some []
    else (textBefore? mark text).map fun before => c :: before

/-- Reads a raw string from behind its letter on. -/
def readRaw : Reader (List Char) := fun source =>
  let (hashes, rest) := source.takeWhile (· == '#')
  match rest.after? "\"" with
  | none => rest.fail (.expected "string")
  | some inside =>
    match textBefore? ('"' :: hashes) inside.text with
    | some text => .ok (text, inside.skip (text.length + 1 + hashes.length))
    | none => inside.fail (.expected "end of string")

/-- Reads a character that stands between quotes as it is. -/
def readBareChar : Reader Char := fun source =>
  match source.text with
  | c :: '\'' :: _ =>
    if c = '\'' then source.fail (.expected "char") else .ok (c, source.skip 1)
  | _ => source.fail (.expected "char")

/-- Reads a character from behind its opening quote on. -/
def readChar : Reader Char := fun source => do
  let (c, rest) ← match source.text with
    | [] => source.fail .ended
    | '\\' :: _ => readEscape (source.skip 1)
    | _ => readBareChar source
  match rest.after? "'" with
  | some rest => return (c, rest)
  | none => rest.fail (.expected "char")

end TestCoverage.Ron
