/-
  TestCoverage.Filter.Sequence

  Numbers at equal distances.
-/
import TestCoverage.Decimal.Power
import TestCoverage.Decimal.Reading
import TestCoverage.Filter.Lines

namespace TestCoverage.Filter

/-- A decimal number: so many of its last digits stand behind the point. -/
structure Fixed where
  digits : Int
  places : Nat
deriving DecidableEq, Repr

namespace Fixed

/-- The largest exponent that is read. -/
def maxExponent : Nat := 4999

/-- The exponent that a text writes behind its letter, which may be missing. -/
def exponent? (text : List Char) : Option Int :=
  match text with
  | [] => some 0
  | mark :: rest =>
    let (below, digits) := Decimal.splitSign rest
    if mark ≠ 'e' ∧ mark ≠ 'E' then none
    else ((number? digits).filter (· ≤ maxExponent)).map fun n => if below then -n else n

/-- The number that a text writes. -/
def ofText? (text : List Char) : Option Fixed := do
  let (negative, text) := Decimal.splitSign (text.dropWhile isSpace)
  let whole := text.takeWhile Char.isDigit
  let behind := text.drop whole.length
  let fraction := match behind with
    | '.' :: rest => rest.takeWhile Char.isDigit
    | _ => []
  let behind := match behind with
    | '.' :: _ => behind.drop (fraction.length + 1)
    | _ => behind
  let exponent ← exponent? behind
  let n ← number? (whole ++ fraction)
  let shift := exponent - fraction.length
  let digits := n * Decimal.tenTo shift.toNat
  return ⟨if negative then -digits else digits, (-shift).toNat⟩

/-- The digits with so many places behind the point, which are no fewer. -/
def scaled (x : Fixed) (places : Nat) : Int :=
  x.digits * (Decimal.tenTo (places - x.places) : Nat)

/-- A number with so many places behind the point. -/
def write (places : Nat) (digits : Int) : List Char :=
  let shown := decimal digits.natAbs
  let shown := List.replicate (places + 1 - shown.length) '0' ++ shown
  let whole := shown.take (shown.length - places)
  let fraction := shown.drop (shown.length - places)
  (if digits < 0 then ['-'] else []) ++ whole
    ++ (if places = 0 then [] else '.' :: fraction)

end Fixed

/-- Numbers from one to another. -/
structure NumberRange where
  first : Fixed := ⟨1, 0⟩
  step : Fixed := ⟨1, 0⟩
  last : Fixed

namespace NumberRange

/-- The numbers, as so many units that are parts of one. -/
def values (range : NumberRange) : List Fixed :=
  let places := max (max range.first.places range.step.places) range.last.places
  let first := range.first.scaled places
  let step := range.step.scaled places
  let last := range.last.scaled places
  let count :=
    if step = 0 then 0
    else if (0 < step ∧ last < first) ∨ (step < 0 ∧ first < last) then 0
    else ((last - first).tdiv step).toNat + 1
  (List.range count).map fun (i : Nat) => ⟨first + i * step, places⟩

/-- The numbers, with as many places behind the point as the first one and the distance
    have. -/
def texts (range : NumberRange) : List (List Char) :=
  let shown := max range.first.places range.step.places
  range.values.map fun x =>
    Fixed.write shown (x.digits / (Decimal.tenTo (x.places - shown) : Nat))

/-- The text brought to a width by zeros behind its sign. -/
def padded (width : Nat) (text : List Char) : List Char :=
  let zeros := List.replicate (width - text.length) '0'
  match text with
  | '-' :: digits => '-' :: zeros ++ digits
  | _ => zeros ++ text

/-- The numbers, all of the width of the wider one of the first and the last. -/
def paddedTexts (range : NumberRange) : List (List Char) :=
  let shown := max range.first.places range.step.places
  let widthOf (x : Fixed) : Nat :=
    let places := max shown x.places
    (Fixed.write shown (x.scaled places / (Decimal.tenTo (places - shown) : Nat))).length
  range.texts.map (padded (max (widthOf range.first) (widthOf range.last)))

end NumberRange

example : ({ last := ⟨3, 0⟩ } : NumberRange).texts = [['1'], ['2'], ['3']] := by decide +kernel
example : ({ first := ⟨10, 0⟩, step := ⟨-5, 0⟩, last := ⟨1, 0⟩ } : NumberRange).texts =
    ["10".toList, "5".toList] := by decide +kernel
example : ({ first := ⟨5, 1⟩, step := ⟨5, 1⟩, last := ⟨12, 1⟩ } : NumberRange).texts =
    ["0.5".toList, "1.0".toList] := by decide +kernel

end TestCoverage.Filter
