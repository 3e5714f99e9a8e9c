/-
  TestCoverage.Awk.Value

  Values: numbers and texts, and how one becomes the other.

  A text that has been read counts as a number wherever it looks like one.  All other texts are
  nothing but texts.
-/
import TestCoverage.Decimal.Arithmetic
import TestCoverage.Shell.Format

namespace TestCoverage.Awk

/-- A value. -/
inductive Value where
  | nothing
  | number (value : Binary64)
  | text (text : List Char)
  /-- a text that has been read -/
  | input (text : List Char)
deriving DecidableEq, Repr

/-! ## Numbers that texts write -/

namespace Numeral

/-- The character is white space. -/
def isBlank (c : Char) : Bool :=
  c == ' ' || ('\t' ≤ c && c ≤ '\r')

/-- The length of the hexadecimal number at the beginning of a text. -/
def hexLength : List Char → Nat
  | '0' :: x :: rest =>
    let digits := rest.takeWhile fun c => (Text.hexDigit? c).isSome
    if (x = 'x' ∨ x = 'X') ∧ ¬ digits.isEmpty then digits.length + 2 else 0
  | _ => 0

/-- The number at the beginning of a text without a sign, and its length. -/
def leading (text : List Char) : Binary64 × Nat :=
  let hex := hexLength text
  if 0 < hex then
    (.ofNat (Shell.Expression.ofDigits 16 ((text.take hex).drop 2)), hex)
  else
    let length := Decimal.leadingLength text
    ((Decimal.positive? (text.take length) false).getD (.zero false), length)

/-- The names of numbers without digits. -/
def named? (text : List Char) : Option Binary64 :=
  let start := String.ofList ((text.take 3).map Char.toLower)
  if start = "inf" then some (.infinite false) else if start = "nan" then some .nan else none

/-- The number at the beginning of a text. -/
def value (text : List Char) : Binary64 :=
  let (below, digits) := Decimal.splitSign (text.dropWhile isBlank)
  let x := (named? digits).getD (leading digits).1
  if below then x.negated else x

/-- The number that a text writes in digits, if it writes one and nothing else but white
    space. -/
def whole? (text : List Char) : Option Binary64 :=
  let text := text.dropWhile isBlank
  let (_, digits) := Decimal.splitSign text
  let (_, length) := leading digits
  if 0 < length ∧ (digits.drop length).all isBlank then some (value text) else none

example : value " -0x1fz".toList = .ofInt (-31) := by decide +kernel
example : value "3 apples".toList = .ofNat 3 := by decide +kernel
example : whole? " +5 ".toList = some (.ofNat 5) := by decide +kernel
example : whole? "5x".toList = none := by decide +kernel

/-- The largest integer that is written in digits. -/
def largest : Nat := Decimal.twoTo 64 - 1

/-- The integer that a number is, if it is written as one. -/
def integer? (x : Binary64) : Option Int :=
  match x.integer? with
  | some n =>
    if -(Decimal.twoTo 63 : Int) ≤ n ∧ n ≤ largest + 1 then some (min n largest) else none
  | none => none

/-- The integer to which a number is cut, which may not be too small or too large. -/
def cut (x : Binary64) : Int :=
  match x with
  | .infinite false => largest
  | _ =>
    match x.whole? with
    | some n => max (-(Decimal.twoTo 63 : Int)) (min n largest)
    | none => -(Decimal.twoTo 63 : Int)

/-- An integer in digits. -/
def ofInt (n : Int) : List Char :=
  if n < 0 then '-' :: Nat.toDigits 10 n.natAbs else Nat.toDigits 10 n.natAbs

/-- A number that is written by a format. -/
def byFormat (format : List Char) (x : Binary64) : List Char :=
  let before := format.takeWhile (· ≠ '%')
  let (conversion, behind, _) := Shell.Format.readConversion (format.drop (before.length + 1)) []
  match behind with
  | [] => before
  | kind :: rest =>
    let written :=
      if "eEfFgG".toList.contains kind then conversion.ofDouble kind x
      else if kind = 'd' ∨ kind = 'i' then conversion.ofSigned (cut x)
      else []
    before ++ written ++ rest

/-- A number as a text: an integer in digits, and others by a format. -/
def text (format : List Char) (x : Binary64) : List Char :=
  match x, integer? x with
  | _, some n => ofInt n
  | .nan, none => "-nan".toList
  | _, none => byFormat format x

end Numeral

/-! ## Values as numbers, texts and conditions -/

namespace Value

/-- A number. -/
def ofInt (n : Int) : Value :=
  .number (.ofInt n)

/-- A truth value. -/
def ofBool (b : Bool) : Value :=
  .ofInt (if b then 1 else 0)

/-- The number that a value is or begins with. -/
def toNumber : Value → Binary64
  | nothing => .zero false
  | number x => x
  | text s | input s => Numeral.value s

/-- The number that a value counts as, if it does not count as a text. -/
def number? : Value → Option Binary64
  | nothing => some (.zero false)
  | number x => some x
  | text _ => none
  | input s => Numeral.whole? s

/-- The integer to which a value is cut. -/
def toInt (value : Value) : Int :=
  Numeral.cut value.toNumber

/-- The text of a value, with a format for numbers. -/
def toText (format : List Char) : Value → List Char
  | nothing => []
  | number x => Numeral.text format x
  | text s | input s => s

/-- The value holds as a condition: it is a number that is not zero, or a text with
    something in it. -/
def holds : Value → Bool
  | nothing => false
  | number x => !x.isZero
  | text s => !s.isEmpty
  | input s =>
    match Numeral.whole? s with
    | some x => !x.isZero
    | none => !s.isEmpty

/-- The order of two texts. -/
def textOrder : List Char → List Char → Ordering
  | [], [] => .eq
  | [], _ :: _ => .lt
  | _ :: _, [] => .gt
  | c :: s, d :: t =>
    if c = d then textOrder s t else if c.toNat < d.toNat then .lt else .gt

/-- The order of two values: that of numbers if both count as numbers, or else that of their
    texts. -/
def order? (format : List Char) (first second : Value) : Option Ordering :=
  match first.number?, second.number? with
  | some x, some y => x.order? y
  | _, _ => some (textOrder (first.toText format) (second.toText format))

example : order? [] (.input "10".toList) (.input "9".toList) = some .gt := by decide +kernel
example : order? [] (.text "10".toList) (.input "9".toList) = some .lt := by decide +kernel
example : holds (.input " 0 ".toList) = false ∧ holds (.text ['0']) = true := by decide +kernel
example : toText "%.6g".toList (.number (.ofRatio false 1 3)) = "0.333333".toList := by
  decide +kernel

end Value
end TestCoverage.Awk
