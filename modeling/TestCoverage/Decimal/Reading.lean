/-
  TestCoverage.Decimal.Reading

  Numbers written in decimal: 64-bit integers with an optional sign, and doubles with an
  optional point and exponent, or by name.
-/
import TestCoverage.Decimal.Binary64

namespace TestCoverage.Decimal

/-- The natural number written by decimal digits, behind one that is already read. -/
def natural (value : Nat) (digits : List Char) : Nat :=
  digits.foldl (fun n c => n * 10 + (c.toNat - '0'.toNat)) value

/-- A sign, if there is one, and what it stands before; true for minus. -/
def splitSign : List Char → Bool × List Char
  | '-' :: rest => (true, rest)
  | '+' :: rest => (false, rest)
  | text => (false, text)

/-- The integer, if it has 64 bits. -/
def int64? (negative : Bool) (magnitude : Nat) : Option Int :=
  if negative then
    if magnitude ≤ twoTo 63 then some (-magnitude) else none
  else if magnitude < twoTo 63 then some magnitude
  else none

/-- The integer that the whole text writes: digits behind an optional sign. -/
def integer? (text : List Char) : Option Int :=
  let (negative, digits) := splitSign text
  if digits.isEmpty ∨ ¬ digits.all Char.isDigit then none
  else int64? negative (natural 0 digits)

/-- The exponent that the whole text writes: nothing, or a letter, an optional sign and
    digits. -/
def exponent? (text : List Char) : Option Int :=
  match text with
  | [] => some 0
  | c :: rest =>
    if c = 'e' ∨ c = 'E' then
      let (negative, digits) := splitSign rest
      if digits.isEmpty ∨ ¬ digits.all Char.isDigit then none
      else some (if negative then -(natural 0 digits : Int) else natural 0 digits)
    else none

/-- The double that the whole text writes in digits: some before or behind a point, and
    an optional exponent. -/
def positive? (text : List Char) (negative : Bool) : Option Binary64 :=
  let whole := text.takeWhile Char.isDigit
  let (fraction, tail) := match text.dropWhile Char.isDigit with
    | '.' :: rest => (rest.takeWhile Char.isDigit, rest.dropWhile Char.isDigit)
    | tail => ([], tail)
  if whole.isEmpty ∧ fraction.isEmpty then none
  else (exponent? tail).map fun e =>
    .ofDecimal negative (natural 0 (whole ++ fraction)) (e - fraction.length)

/-- The length of the decimal number at the beginning of a text. -/
def leadingLength (text : List Char) : Nat :=
  let whole := text.takeWhile Char.isDigit
  let behind := text.drop whole.length
  let fraction := match behind with
    | '.' :: rest => '.' :: rest.takeWhile Char.isDigit
    | _ => []
  if whole.isEmpty ∧ fraction.length < 2 then 0
  else
    let length := whole.length + fraction.length
    match text.drop length with
    | e :: rest =>
      let (_, digits) := splitSign rest
      let signLength := rest.length - digits.length
      let digits := digits.takeWhile Char.isDigit
      if (e = 'e' ∨ e = 'E') ∧ ¬ digits.isEmpty then length + 1 + signLength + digits.length
      else length
    | [] => length

/-- The double that the whole text writes, in digits or by name in any case. -/
def float? (text : List Char) : Option Binary64 :=
  let (negative, rest) := splitSign text
  let name := rest.map Char.toLower
  if name = ['n', 'a', 'n'] then some .nan
  else if name = ['i', 'n', 'f'] ∨ name = ['i', 'n', 'f', 'i', 'n', 'i', 't', 'y'] then
    some (.infinite negative)
  else positive? rest negative

example : integer? ['-', '0', '0', '7'] = some (-7) := by decide
example : integer? ['+'] = none := by decide
example : float? ['5', '.'] = some (.ofNat 5) := by decide +kernel
example : float? ['.'] = none := by decide
example : float? ['-', '1', 'e', '4', '0', '0'] = some (.infinite true) := by decide +kernel

end TestCoverage.Decimal
