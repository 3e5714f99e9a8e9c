/-
  TestCoverage.Decimal.Written

  Doubles as text, in two forms.  The plain form never has an exponent and shows a whole
  number without a point; the exact form always shows that the number is not an integer,
  by a point or by an exponent, and takes an exponent outside `1e-5` to `1e16`.
-/
import TestCoverage.Decimal.Shortest

namespace TestCoverage.Decimal

/-- The decimal digits of a natural number. -/
def digits (n : Nat) : List Char :=
  Nat.toDigits 10 n

/-- `digits * 10 ^ k` written out, without an exponent. -/
def positional (ds : List Char) (k : Int) : List Char :=
  let place := ds.length + k
  if 0 ≤ k then ds ++ List.replicate k.toNat '0'
  else if 0 < place then ds.take place.toNat ++ '.' :: ds.drop place.toNat
  else ['0', '.'] ++ List.replicate (-place).toNat '0' ++ ds

/-- The text with a point and a zero if it has no point. -/
def withPoint (text : List Char) : List Char :=
  if text.contains '.' then text else text ++ ['.', '0']

/-- `digits * 10 ^ k` with one digit before the point and a signed exponent. -/
def scientific (ds : List Char) (k : Int) : List Char :=
  let exponent := ds.length + k - 1
  let mantissa := match ds with
    | [] => []
    | [d] => [d]
    | d :: more => d :: '.' :: more
  let sign := if exponent < 0 then '-' else '+'
  mantissa ++ 'e' :: sign :: digits exponent.natAbs

/-- The sign of a number before its text. -/
def signed (negative : Bool) (text : List Char) : List Char :=
  if negative then '-' :: text else text

end Decimal

namespace Binary64

open Decimal

/-- Plain text: no exponent, no point in a whole number. -/
def plain : Binary64 → List Char
  | .nan => ['N', 'a', 'N']
  | .infinite negative => signed negative ['i', 'n', 'f']
  | .finite negative 0 _ => signed negative ['0']
  | .finite negative significand exponent =>
    let (d, k) := shortest .up significand exponent
    signed negative (positional (digits d) k)

/-- Plain text with a point in it if the number is finite. -/
def plainWithPoint (x : Binary64) : List Char :=
  match x with
  | .finite .. => withPoint x.plain
  | _ => x.plain

/-- Exact text: positional with a point from `1e-5` up to but not including `1e16`,
    otherwise with an exponent. -/
def exact : Binary64 → List Char
  | .finite negative 0 _ => signed negative ['0', '.', '0']
  | .finite negative significand exponent =>
    let (d, k) := shortest .even significand exponent
    let ds := digits d
    let place := ds.length + k
    signed negative <|
      if -5 < place ∧ place ≤ 16 then withPoint (positional ds k) else scientific ds k
  | x => x.plain

example : (ofDecimal false 25 (-1)).plain = "2.5".toList := by decide +kernel
example : (ofDecimal false 1 21).plain = "1000000000000000000000".toList := by decide +kernel
example : (ofDecimal false 1 (-7)).plain = "0.0000001".toList := by decide +kernel
example : (ofDecimal false 1 15).exact = "1000000000000000.0".toList := by decide +kernel
example : (ofDecimal false 1 (-5)).exact = "0.00001".toList := by decide +kernel
example : (ofDecimal true 15 (-8)).exact = "-1.5e-7".toList := by decide +kernel
example : (ofDecimal false 1 16).exact = "1e+16".toList := by decide +kernel

end Binary64
end TestCoverage
