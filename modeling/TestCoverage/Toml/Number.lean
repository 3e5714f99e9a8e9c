/-
  TestCoverage.Toml.Number

  Integers in four bases and floating-point numbers.  Underscores stand only between
  digits, and a decimal number has no leading zeros.
-/
import TestCoverage.Decimal.Reading
import TestCoverage.Toml.Value

namespace TestCoverage.Toml

/-- Reads digits from behind the first one: an underscore is left out, and a digit must
    follow it. -/
def readMoreDigits (isDigit : Char → Bool) : List Char → Option (List Char × List Char)
  | [] => some ([], [])
  | c :: rest =>
    if isDigit c then
      (readMoreDigits isDigit rest).map fun (digits, rest) => (c :: digits, rest)
    else if c = '_' then
      match rest with
      | d :: behind =>
        if isDigit d then
          (readMoreDigits isDigit behind).map fun (digits, rest) => (d :: digits, rest)
        else none
      | [] => none
    else some ([], c :: rest)

/-- Reads one or more digits, with underscores between them. -/
def readDigits (isDigit : Char → Bool) : Reader (List Char) := fun text =>
  match text with
  | [] => none
  | c :: rest =>
    if isDigit c then
      (readMoreDigits isDigit rest).map fun (digits, rest) => (c :: digits, rest)
    else none

/-- Reads a decimal integer as written, without underscores: nothing follows a leading
    zero. -/
def readDecimal : Reader (List Char) := fun text =>
  let (sign, text) := match text with
    | '-' :: rest => (['-'], rest)
    | '+' :: rest => ([], rest)
    | _ => ([], text)
  match text with
  | '0' :: rest => some (sign ++ ['0'], rest)
  | _ => (readDigits Char.isDigit text).map fun (digits, rest) => (sign ++ digits, rest)

/-- Reads an exponent as written, without underscores. -/
def readExponent : Reader (List Char) := fun text =>
  match text with
  | e :: rest =>
    if e = 'e' ∨ e = 'E' then
      let (sign, rest) := match rest with
        | '-' :: rest => (['-'], rest)
        | '+' :: rest => ([], rest)
        | _ => ([], rest)
      (readDigits Char.isDigit rest).map fun (digits, rest) => ('e' :: sign ++ digits, rest)
    else some ([], text)
  | [] => some ([], [])

/-- The number that was written; one that is too large is refused, unless it is
    negative. -/
def floatValue? (text : List Char) : Option Value :=
  match Decimal.float? text with
  | none => none
  | some x => if x = .infinite false then none else some (.float x)

/-- Reads an integer in another base from behind its mark. -/
def readBased (base : Nat) (digit? : Char → Option Nat) : Reader Value := fun text => do
  let (digits, rest) ← readDigits (fun c => (digit? c).isSome) text
  let n := digits.foldl (fun n c => n * base + (digit? c).getD 0) 0
  let value ← Decimal.int64? false n
  return (.integer value, rest)

/-- The value of a digit below a base. -/
def digitBelow? (base : Nat) (c : Char) : Option Nat :=
  if c.isDigit ∧ c.toNat - '0'.toNat < base then some (c.toNat - '0'.toNat)
  else if 'a' ≤ c ∧ c ≤ 'z' ∧ c.toNat - 'a'.toNat + 10 < base then
    some (c.toNat - 'a'.toNat + 10)
  else if 'A' ≤ c ∧ c ≤ 'Z' ∧ c.toNat - 'A'.toNat + 10 < base then
    some (c.toNat - 'A'.toNat + 10)
  else none

/-- Reads infinity or not-a-number behind its sign. -/
def readName (negative : Bool) : Reader Value := fun text =>
  match text with
  | 'i' :: 'n' :: 'f' :: rest => some (.float (.infinite negative), rest)
  | 'n' :: 'a' :: 'n' :: rest => some (.float .nan, rest)
  | _ => none

/-- Reads a decimal integer or a floating-point number in digits. -/
def readPlainNumber : Reader Value := fun text => do
  let (whole, rest) ← readDecimal text
  match rest with
  | c :: behind =>
    if c = '.' then
      let (fraction, rest) ← readDigits Char.isDigit behind
      let (exponent, rest) ← readExponent rest
      let value ← floatValue? (whole ++ '.' :: fraction ++ exponent)
      return (value, rest)
    else if c = 'e' ∨ c = 'E' then
      let (exponent, rest) ← readExponent rest
      let value ← floatValue? (whole ++ exponent)
      return (value, rest)
    else
      let value ← Decimal.integer? whole
      return (.integer value, rest)
  | [] =>
    let value ← Decimal.integer? whole
    return (.integer value, [])

/-- Reads a number. -/
def readNumber : Reader Value := fun text =>
  match text with
  | '0' :: 'x' :: rest => readBased 16 (digitBelow? 16) rest
  | '0' :: 'o' :: rest => readBased 8 (digitBelow? 8) rest
  | '0' :: 'b' :: rest => readBased 2 (digitBelow? 2) rest
  | '+' :: rest => (readName false rest).or (readPlainNumber text)
  | '-' :: rest => (readName true rest).or (readPlainNumber text)
  | _ => (readName false text).or (readPlainNumber text)

end TestCoverage.Toml
