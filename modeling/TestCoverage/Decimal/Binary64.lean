/-
  TestCoverage.Decimal.Binary64

  Double-precision numbers as exact values: a significand times a power of two.  A ratio
  of natural numbers is rounded to the nearest such number, a tie going to the even
  significand; reading a decimal, multiplying and dividing are all this one rounding of
  the exact result.
-/
import TestCoverage.Decimal.Power

namespace TestCoverage

/-- A double-precision number.  A finite one is `significand * 2 ^ exponent`, where the
    exponent is at least `-1074` and the significand has 53 bits unless the exponent is
    the least one. -/
inductive Binary64 where
  | finite (negative : Bool) (significand : Nat) (exponent : Int)
  | infinite (negative : Bool)
  | nan
deriving DecidableEq, Repr

namespace Binary64

open Decimal (twoTo tenTo)

/-- The least exponent, that of the subnormal numbers. -/
def minExponent : Int := -1074

/-- The greatest exponent of a finite number. -/
def maxExponent : Int := 971

/-- Zero with a sign. -/
def zero (negative : Bool) : Binary64 :=
  .finite negative 0 minExponent

/-! ## Rounding -/

/-- A quotient rounded to the nearest natural number, a tie to the even one. -/
def roundDiv (num den : Nat) : Nat :=
  let quotient := num / den
  let rest := num % den
  if 2 * rest < den then quotient
  else if den < 2 * rest then quotient + 1
  else quotient + quotient % 2

/-- The ratio `num / den` divided by `2 ^ exponent`, as numerator and denominator. -/
def scaled (num den : Nat) (exponent : Int) : Nat × Nat :=
  if 0 ≤ exponent then (num, den * twoTo exponent.toNat)
  else (num * twoTo (-exponent).toNat, den)

/-- The exponent with which the ratio has a significand of 53 bits, or the least one. -/
def exponentOf (num den : Nat) : Int :=
  let low := max ((Nat.log2 num : Int) - Nat.log2 den - 53) minExponent
  let (n, d) := scaled num den low
  if n / d < twoTo 53 then low else low + 1

/-- The double nearest to `num / den`, where `den` is not zero. -/
def ofRatio (negative : Bool) (num den : Nat) : Binary64 :=
  if num = 0 then zero negative
  else
    let exponent := exponentOf num den
    let (n, d) := scaled num den exponent
    let significand := roundDiv n d
    let (significand, exponent) :=
      if significand = twoTo 53 then (twoTo 52, exponent + 1) else (significand, exponent)
    if maxExponent < exponent then .infinite negative
    else .finite negative significand exponent

/-- The double nearest to `digits * 10 ^ exponent`.  Exponents far outside the range are
    settled without computing the power. -/
def ofDecimal (negative : Bool) (digits : Nat) (exponent : Int) : Binary64 :=
  if digits = 0 then zero negative
  else if 400 < exponent then .infinite negative
  else if exponent + Nat.log2 digits + 1 < -400 then zero negative
  else if 0 ≤ exponent then ofRatio negative (digits * tenTo exponent.toNat) 1
  else ofRatio negative digits (tenTo (-exponent).toNat)

/-- The double nearest to a natural number. -/
def ofNat (n : Nat) : Binary64 :=
  ofRatio false n 1

/-! ## Arithmetic on magnitudes -/

/-- `significand * 2 ^ exponent` as a ratio. -/
def ratio (significand : Nat) (exponent : Int) : Nat × Nat :=
  scaled significand 1 (-exponent)

/-- The rounded product of two numbers that are neither negative nor NaN. -/
def mul : Binary64 → Binary64 → Binary64
  | .finite _ m e, .finite _ m' e' =>
    let (num, den) := ratio (m * m') (e + e')
    ofRatio false num den
  | _, _ => .infinite false

/-- The rounded quotient of two finite numbers that are not negative, the second not
    zero. -/
def div : Binary64 → Binary64 → Binary64
  | .finite _ m e, .finite _ m' e' =>
    let (num, den) := ratio m (e - e')
    ofRatio false num (den * m')
  | x, _ => x

/-- The number with the sign put before it. -/
def withSign (negative : Bool) : Binary64 → Binary64
  | .finite _ m e => .finite negative m e
  | .infinite _ => .infinite negative
  | .nan => .nan

/-- The number equals zero, of either sign. -/
def isZero : Binary64 → Bool
  | .finite _ m _ => m == 0
  | _ => false

/-- The number is an infinity. -/
def isInfinite : Binary64 → Bool
  | .infinite _ => true
  | _ => false

example : ofDecimal false 1 0 = .finite false (twoTo 52) (-52) := by decide +kernel
example : ofDecimal false 5 (-324) = .finite false 1 (-1074) := by decide +kernel
example : ofDecimal true 1 400 = .infinite true := by decide +kernel
example : ofNat (twoTo 53 + 1) = .finite false (twoTo 52) 1 := by decide +kernel

end Binary64
end TestCoverage
