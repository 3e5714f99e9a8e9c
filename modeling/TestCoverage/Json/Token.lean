/-
  TestCoverage.Json.Token

  The words, strings and numbers of JSON.

  Every reader is given the text from the first character that is its own, and gives the
  text behind the last one.
-/
import TestCoverage.Json.Fault
import TestCoverage.Text.Hex

namespace TestCoverage.Json

/-! ## White space and words -/

/-- White space between tokens. -/
def isSpace (c : Char) : Bool :=
  c == ' ' || c == '\n' || c == '\t' || c == '\r'

/-- The text from the next token on. -/
def skipSpace (text : List Char) : List Char :=
  text.dropWhile isSpace

/-- Reads the letters of a word. -/
def readWord : List Char → List Char → Except Fault (List Char)
  | [], text => .ok text
  | _ :: _, [] => .error (.here .eofValue [])
  | letter :: letters, c :: text =>
    if c = letter then readWord letters text else .error (.next .expectedIdent (c :: text))

/-! ## Strings -/

/-- The sixteen-bit unit of four hexadecimal digits. -/
def hexUnit? (a b c d : Char) : Option Nat :=
  Text.hexValue? 0 [a, b, c, d]

/-- The unit is the first half of a surrogate pair. -/
def isHighSurrogate (unit : Nat) : Bool :=
  0xD800 ≤ unit && unit ≤ 0xDBFF

/-- The unit is the second half of a surrogate pair. -/
def isLowSurrogate (unit : Nat) : Bool :=
  0xDC00 ≤ unit && unit ≤ 0xDFFF

/-- The character of a surrogate pair. -/
def pairChar (high low : Nat) : Char :=
  Char.ofNat (0x10000 + (high - 0xD800) * 0x400 + (low - 0xDC00))

/-- The character that an escape of one letter stands for. -/
def letterEscape? : Char → Option Char
  | '"' => some '"'
  | '\\' => some '\\'
  | '/' => some '/'
  | 'b' => some '\x08'
  | 'f' => some '\x0c'
  | 'n' => some '\n'
  | 'r' => some '\r'
  | 't' => some '\t'
  | _ => none

/-- The text does not begin with four hexadecimal digits. -/
def hexFault (text : List Char) : Fault :=
  if Utf8.size text < 4 then .here .eofString [] else ⟨.invalidEscape, text, 4⟩

/-- The text behind the first half of a surrogate pair does not begin the second half. -/
def pairFault : List Char → Fault
  | [] => .here .eofString []
  | ['\\'] => .here .eofString []
  | '\\' :: 'u' :: text => hexFault text
  | '\\' :: text => .next .unfinishedPair text
  | text => .next .unfinishedPair text

/-- Puts a character before the string that a reader gives. -/
def Reading.cons (c : Char) (reading : Reading (List Char)) : Reading (List Char) :=
  reading.map fun (text, rest) => (c :: text, rest)

/-- Reads a string from behind its opening quote. -/
def readString : List Char → Reading (List Char)
  | [] => .error (.here .eofString [])
  | c :: text =>
    if c = '"' then .ok ([], text)
    else if c = '\\' then
      match text with
      | [] => .error (.here .eofString [])
      | e :: text =>
        if e = 'u' then
          match text with
          | h₁ :: h₂ :: h₃ :: h₄ :: rest =>
            match hexUnit? h₁ h₂ h₃ h₄ with
            | none => .error (hexFault text)
            | some unit =>
              if isLowSurrogate unit then .error (.here .loneSurrogate rest)
              else if isHighSurrogate unit then
                match rest with
                | '\\' :: 'u' :: l₁ :: l₂ :: l₃ :: l₄ :: behind =>
                  match hexUnit? l₁ l₂ l₃ l₄ with
                  | none => .error (pairFault rest)
                  | some low =>
                    if isLowSurrogate low then (readString behind).cons (pairChar unit low)
                    else .error (.here .loneSurrogate behind)
                | _ => .error (pairFault rest)
              else (readString rest).cons (Char.ofNat unit)
          | _ => .error (hexFault text)
        else match letterEscape? e with
          | some d => (readString text).cons d
          | none => .error (.next .invalidEscape (e :: text))
    else if c.toNat < 0x20 then .error (.next .controlCharacter (c :: text))
    else (readString text).cons c

/-- Passes over a string, from behind its opening quote.  Its characters do not matter,
    so surrogates need not be paired. -/
def skipString : List Char → Except Fault (List Char)
  | [] => .error (.here .eofString [])
  | c :: text =>
    if c = '"' then .ok text
    else if c = '\\' then
      match text with
      | [] => .error (.here .eofString [])
      | e :: text =>
        if e = 'u' then
          match text with
          | h₁ :: h₂ :: h₃ :: h₄ :: rest =>
            match hexUnit? h₁ h₂ h₃ h₄ with
            | none => .error (hexFault text)
            | some _ => skipString rest
          | _ => .error (hexFault text)
        else match letterEscape? e with
          | some _ => skipString text
          | none => .error (.next .invalidEscape (e :: text))
    else if c.toNat < 0x20 then .error (.here .controlCharacter (c :: text))
    else skipString text

/-! ## Numbers -/

/-- The parts of a number as written. -/
structure Numeral where
  negative : Bool
  whole : List Char
  fraction : Option (List Char)
  exponent : Option (Bool × List Char)
deriving DecidableEq, Repr

/-- A digit was wanted; `atEnd` says what is wrong when the text has ended. -/
def digitFault (atEnd : Problem) (text : List Char) : Fault :=
  .next (if text.isEmpty then atEnd else .invalidNumber) text

/-- Reads one or more digits. -/
def readDigits (atEnd : Problem) (text : List Char) : Reading (List Char) :=
  if (text.takeWhile Char.isDigit).isEmpty then .error (digitFault atEnd text)
  else .ok (text.takeWhile Char.isDigit, text.dropWhile Char.isDigit)

/-- Reads a sign where one may stand; true for minus. -/
def readSign : List Char → Bool × List Char
  | '-' :: text => (true, text)
  | '+' :: text => (false, text)
  | text => (false, text)

/-- Reads the digits before the point.  No digit follows a leading zero. -/
def readWhole (atEnd : Problem) (text : List Char) : Reading (List Char) :=
  match text with
  | '0' :: rest =>
    match rest with
    | c :: _ =>
      if c.isDigit then .error (.next .invalidNumber rest) else .ok (['0'], rest)
    | [] => .ok (['0'], [])
  | _ => readDigits atEnd text

/-- Reads the point and the digits behind it, if there is a point. -/
def readFraction (atEnd : Problem) (text : List Char) : Reading (Option (List Char)) :=
  match text with
  | '.' :: rest => (readDigits atEnd rest).map fun (digits, rest) => (some digits, rest)
  | _ => .ok (none, text)

/-- Reads an exponent, if there is one. -/
def readExponent (atEnd : Problem) (text : List Char) : Reading (Option (Bool × List Char)) :=
  match text with
  | c :: rest =>
    if c = 'e' ∨ c = 'E' then
      let (negative, rest) := readSign rest
      (readDigits atEnd rest).map fun (digits, rest) => (some (negative, digits), rest)
    else .ok (none, text)
  | [] => .ok (none, [])

/-- Reads a number as written. -/
def readNumeral (atEnd : Problem) (text : List Char) :
    Except Fault (Numeral × List Char) := do
  let (negative, text) := match text with
    | '-' :: rest => (true, rest)
    | _ => (false, text)
  let (whole, text) ← readWhole atEnd text
  let (fraction, text) ← readFraction atEnd text
  let (exponent, text) ← readExponent atEnd text
  return (⟨negative, whole, fraction, exponent⟩, text)

/-- The value of a digit. -/
def digitValue (c : Char) : Nat :=
  c.toNat - '0'.toNat

/-- The leading digits of a number in 64 bits, and the power of ten that is left. -/
structure Scaled where
  significand : Nat
  scale : Int
  full : Bool
deriving DecidableEq, Repr

/-- The greatest significand. -/
def maxSignificand : Nat := Decimal.twoTo 64 - 1

/-- One more digit before the point: once the significand is full, digits only scale. -/
def Scaled.pushWhole (s : Scaled) (c : Char) : Scaled :=
  let significand := s.significand * 10 + digitValue c
  if s.full ∨ maxSignificand < significand then ⟨s.significand, s.scale + 1, true⟩
  else ⟨significand, s.scale, false⟩

/-- One more digit behind the point: once the significand is full, digits are dropped. -/
def Scaled.pushFraction (s : Scaled) (c : Char) : Scaled :=
  let significand := s.significand * 10 + digitValue c
  if s.full ∨ maxSignificand < significand then ⟨s.significand, s.scale, true⟩
  else ⟨significand, s.scale - 1, false⟩

/-- The greatest exponent that is told from infinity while it is read. -/
def maxExponent : Nat := Decimal.twoTo 31 - 1

/-- The value of an exponent's digits, or the digits left when it grows too large. -/
def exponentValue (value : Nat) : List Char → Except (List Char) Nat
  | [] => .ok value
  | c :: digits =>
    let value := value * 10 + digitValue c
    if maxExponent < value then .error digits else exponentValue value digits

/-- A significand times a power of ten, or nothing if that is too large.  The power is
    rounded to a double first; far below the range it is divided out in steps. -/
def scaledFloat? (significand : Nat) (scale : Int) : Option Binary64 :=
  let start := Binary64.ofNat significand
  if 308 < scale then if start.isZero then some start else none
  else if 0 ≤ scale then
    let product := start.mul (.ofDecimal false 1 scale)
    if product.isInfinite then none else some product
  else
    some (shrink start (-scale).toNat ((-scale).toNat / 308))
where
  /-- Divides by `10 ^ places`, at most by `10 ^ 308` at a time. -/
  shrink (x : Binary64) (places : Nat) : Nat → Binary64
    | 0 => x.div (.ofDecimal false 1 places)
    | steps + 1 =>
      if places ≤ 308 then x.div (.ofDecimal false 1 places)
      else if x.isZero then x
      else shrink (x.div (.ofDecimal false 1 308)) (places - 308) steps

/-- A number with a point or an exponent, or too large for an integer.  `behind` is the
    text behind the number. -/
def Numeral.float (n : Numeral) (whole : Scaled) (behind : List Char) : Reading Found :=
  let parts := (n.fraction.getD []).foldl Scaled.pushFraction { whole with full := false }
  let finish (scale : Int) : Reading Found :=
    match scaledFloat? parts.significand scale with
    | some x => .ok (.float (x.withSign n.negative), behind)
    | none => .error (.here .numberOutOfRange behind)
  match n.exponent with
  | none => finish parts.scale
  | some (negative, digits) =>
    match exponentValue 0 digits with
    | .ok e => finish (if negative then parts.scale - e else parts.scale + e)
    | .error left =>
      if parts.significand = 0 ∨ negative then
        .ok (.float (.zero n.negative), behind)
      else .error (.here .numberOutOfRange (left ++ behind))

/-- The value of a number.  An integer has 64 bits, with or without a sign; minus zero and
    larger integers are floating point. -/
def Numeral.value (n : Numeral) (behind : List Char) : Reading Found :=
  let whole := n.whole.foldl Scaled.pushWhole ⟨0, 0, false⟩
  if n.fraction.isSome ∨ n.exponent.isSome ∨ whole.full then n.float whole behind
  else if ¬ n.negative then .ok (.integer whole.significand, behind)
  else if whole.significand = 0 ∨ Decimal.twoTo 63 < whole.significand then n.float whole behind
  else .ok (.integer (-whole.significand), behind)

/-- Reads a number. -/
def readNumber (text : List Char) : Except Fault (Found × List Char) := do
  let (numeral, text) ← readNumeral .eofValue text
  numeral.value text

/-! ## Values of the wrong type -/

/-- Reads a token to name it.  Nothing of a list or an object is read. -/
def readToken (text : List Char) : Reading Found :=
  match text with
  | [] => .error (.next .eofValue [])
  | c :: rest =>
    if c = 'n' then (readWord ['u', 'l', 'l'] rest).map (.null, ·)
    else if c = 't' then (readWord ['r', 'u', 'e'] rest).map (.boolean true, ·)
    else if c = 'f' then (readWord ['a', 'l', 's', 'e'] rest).map (.boolean false, ·)
    else if c = '"' then (readString rest).map fun (s, rest) => (.string s, rest)
    else if c = '[' then .ok (.sequence, text)
    else if c = '\x7b' then .ok (.map, text)
    else if c = '-' ∨ c.isDigit then readNumber text
    else .error (.next .expectedValue text)

/-- The value at hand is not of the expected kind, unless it is no value at all. -/
def wrongType (expected : String) (text : List Char) : Fault :=
  match readToken text with
  | .error fault => fault
  | .ok (found, rest) => .here (.wrongType found expected) rest

end TestCoverage.Json
