/-
  TestCoverage.Decimal.Places

  Numbers with a given count of digits, as text.

  The exact value is rounded once, a tie going to the even digit.
-/
import TestCoverage.Decimal.Written

namespace TestCoverage.Decimal

/-- The digits of a number with so many of them behind a point.  With `keepsPoint` there is
    a point even if nothing stands behind it. -/
def withPlaces (keepsPoint : Bool) (places n : Nat) : List Char :=
  let shown := digits n
  let shown := List.replicate (places + 1 - shown.length) '0' ++ shown
  let whole := shown.take (shown.length - places)
  if places = 0 then (if keepsPoint then whole ++ ['.'] else whole)
  else whole ++ '.' :: shown.drop (shown.length - places)

/-- The ratio `num / den` with so many digits behind the point. -/
def fixedPlaces (keepsPoint : Bool) (places num den : Nat) : List Char :=
  withPlaces keepsPoint places (Binary64.roundDiv (num * tenTo places) den)

/-- The ratio `num / den` times `10 ^ exponent`, rounded. -/
def roundScaled (num den : Nat) (exponent : Int) : Nat :=
  if 0 ≤ exponent then Binary64.roundDiv (num * tenTo exponent.toNat) den
  else Binary64.roundDiv num (den * tenTo (-exponent).toNat)

/-- The exponent of the first digit of `num / den`, which is not zero. -/
def firstPlace (num den : Nat) : Int :=
  let guess : Int := ((digits num).length : Int) - (digits den).length
  let isBelow : Bool :=
    if 0 ≤ guess then num < den * tenTo guess.toNat else num * tenTo (-guess).toNat < den
  if isBelow then guess - 1 else guess

/-- The digits of `num / den` as a whole number of `places + 1` digits, and the exponent of
    the first of them. -/
def significant (places num den : Nat) : Nat × Int :=
  if num = 0 then (0, 0)
  else
    let exponent := firstPlace num den
    let n := roundScaled num den (places - exponent)
    if n = tenTo (places + 1) then (tenTo places, exponent + 1) else (n, exponent)

/-- An exponent with a sign and at least two digits. -/
def exponentText (letter : Char) (exponent : Int) : List Char :=
  let shown := digits exponent.natAbs
  letter :: (if exponent < 0 then '-' else '+') ::
    (if shown.length < 2 then '0' :: shown else shown)

/-- The ratio `num / den` with one digit before the point, so many behind it, and an
    exponent. -/
def scientificPlaces (keepsPoint : Bool) (places num den : Nat) : List Char :=
  let (n, exponent) := significant places num den
  withPlaces keepsPoint places n ++ exponentText 'e' exponent

/-- A text without the zeros at the end of what stands behind its point. -/
def withoutZeros (text : List Char) : List Char :=
  if text.contains '.' then
    let shorter := (text.reverse.dropWhile (· = '0')).reverse
    if shorter.getLast? = some '.' then shorter.dropLast else shorter
  else text

/-- The ratio `num / den` with so many digits in all, with an exponent if it is far from one.
    With `keepsAll` zeros at the end stay. -/
def generalPlaces (keepsAll : Bool) (count num den : Nat) : List Char :=
  let count := max count 1
  let (n, exponent) := significant (count - 1) num den
  let trim (text : List Char) : List Char := if keepsAll then text else withoutZeros text
  if -4 ≤ exponent ∧ exponent < count then
    trim (fixedPlaces keepsAll (count - 1 - exponent).toNat num den)
  else trim (withPlaces keepsAll (count - 1) n) ++ exponentText 'e' exponent

example : fixedPlaces false 2 2345 1000 = "2.34".toList := by decide +kernel
example : fixedPlaces false 0 5 2 = "2".toList := by decide +kernel
example : scientificPlaces false 3 99996 10 = "1.000e+04".toList := by decide +kernel
example : generalPlaces false 6 1 10000 = "0.0001".toList := by decide +kernel
example : generalPlaces false 6 1 100000 = "1e-05".toList := by decide +kernel
example : generalPlaces false 6 123456789 1 = "1.23457e+08".toList := by decide +kernel

end TestCoverage.Decimal
