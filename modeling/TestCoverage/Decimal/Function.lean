/-
  TestCoverage.Decimal.Function

  Roots, powers, logarithms and the functions of angles.

  They are worked out in numbers with far more places than a double has, counted in units of
  the last place, and then rounded.
-/
import TestCoverage.Decimal.Arithmetic

namespace TestCoverage

open Decimal (twoTo)

/-- A number with many binary places, as so many units of the last place. -/
abbrev Fine := Int

namespace Fine

/-- How many binary places there are. -/
def places : Nat := 320

/-- The number one. -/
def one : Fine := twoTo places

/-- The product of two numbers. -/
def times (a b : Fine) : Fine :=
  a * b / one

/-- The number of a ratio. -/
def ofExact (x : Binary64.Exact) : Fine :=
  x.num * one / x.den

/-- The double nearest to a number times a power of two. -/
def round (x : Fine) (exponent : Int) : Binary64 :=
  let (num, den) := Binary64.scaled x.natAbs 1 ((places : Int) - exponent)
  Binary64.ofRatio (x < 0) num den

/-! ## Series -/

/-- The sum of so many terms.  Each power comes from the one before, and each term is a part of
    its power. -/
def series (next part : Nat → Fine → Fine) : Nat → Nat → Fine → Fine
  | 0, _, _ => 0
  | count + 1, i, power =>
    part i power + series next part count (i + 1) (next i power)

/-- A power over the odd number of its place. -/
def overOdd (i : Nat) (power : Fine) : Fine :=
  power / ((2 * i + 1 : Nat) : Int)

/-- Half of the logarithm of `(1 + z) / (1 - z)`, for a small `z`. -/
def halfLogarithm (z : Fine) : Fine :=
  series (fun _ power => times power (times z z)) overOdd 110 0 z

/-- The angle with a small tangent. -/
def smallAngle (z : Fine) : Fine :=
  series (fun _ power => -times power (times z z)) overOdd 90 0 z

/-- The logarithm of two. -/
def logTwo : Fine :=
  2 * halfLogarithm (one / 3)

/-- Half of the way around a circle. -/
def halfTurn : Fine :=
  16 * smallAngle (one / 5) - 4 * smallAngle (one / 239)

/-- The power of the base of natural logarithms with a small exponent. -/
def smallExponential (x : Fine) : Fine :=
  series (fun i power => times power x / ((i + 1 : Nat) : Int)) (fun _ power => power) 100 0 one

/-- The sine of an angle of not more than half a turn. -/
def sine (x : Fine) : Fine :=
  series (fun i power => -(times power (times x x) / (((2 * i + 2) * (2 * i + 3) : Nat) : Int)))
    (fun _ power => power) 80 0 x

/-- The cosine of an angle of not more than half a turn. -/
def cosine (x : Fine) : Fine :=
  series (fun i power => -(times power (times x x) / (((2 * i + 1) * (2 * i + 2) : Nat) : Int)))
    (fun _ power => power) 80 0 one

/-- The greatest number whose square is not greater than a number, given one of its multiples
    of a power of two and so many bits that are left. -/
def rootFrom (n : Nat) : Nat → Nat → Nat
  | 0, root => root
  | bits + 1, root =>
    let more := root + twoTo bits
    rootFrom n bits (if more * more ≤ n then more else root)

/-- The greatest natural number whose square is not greater than a number. -/
def root (n : Nat) : Nat :=
  rootFrom n (Nat.log2 n / 2 + 1) 0

/-- The angle with a tangent from zero to one. -/
def angle (z : Fine) : Fine :=
  let halve (z : Fine) : Fine :=
    z * one / (one + (root ((one * one + z * z).toNat) : Int))
  4 * smallAngle (halve (halve z))

/-- An angle brought to not more than half a turn on either side. -/
def reduced (x : Fine) : Fine :=
  (x + halfTurn) % (2 * halfTurn) - halfTurn

/-- The natural logarithm of a positive ratio. -/
def logarithm (num den : Nat) : Fine :=
  let exponent : Int := (Nat.log2 num : Int) - Nat.log2 den
  let (n, d) := Binary64.scaled num den exponent
  let m : Fine := (n : Int) * one / (d : Int)
  exponent * logTwo + 2 * halfLogarithm ((m - one) * one / (m + one))

/-- The double nearest to the power of the base of natural logarithms. -/
def exponential (x : Fine) : Binary64 :=
  if 800 * one < x then .infinite false
  else if x < -800 * one then .zero false
  else
    let exponent := (2 * x / logTwo + 1) / 2
    round (smallExponential (x - exponent * logTwo)) exponent

end Fine

namespace Binary64

/-! ## Functions of doubles -/

/-- The square root of a number. -/
def squareRoot : Binary64 → Binary64
  | .finite s m e =>
    if m = 0 then .finite s m e
    else if s then .nan
    else
      let (num, den) := ratio m e
      let shift := 128
      let square := num * den * twoTo (2 * shift)
      let root := Fine.root square
      let twice := if root * root = square then 2 * root else 2 * root + 1
      ofRatio false twice (den * twoTo (shift + 1))
  | .infinite s => if s then .nan else .infinite false
  | .nan => .nan

/-- The power of the base of natural logarithms. -/
def exponential : Binary64 → Binary64
  | .finite s m e => Fine.exponential (Fine.ofExact (exactOf s m e))
  | .infinite s => if s then zero false else .infinite false
  | .nan => .nan

/-- The natural logarithm of a number. -/
def logarithm : Binary64 → Binary64
  | .finite s m e =>
    if m = 0 then .infinite true
    else if s then .nan
    else
      let (num, den) := ratio m e
      Fine.round (Fine.logarithm num den) 0
  | .infinite s => if s then .nan else .infinite false
  | .nan => .nan

/-- The sine of an angle. -/
def sine : Binary64 → Binary64
  | .finite s m e =>
    if m = 0 then .finite s m e
    else Fine.round (Fine.sine (Fine.reduced (Fine.ofExact (exactOf s m e)))) 0
  | _ => .nan

/-- The cosine of an angle. -/
def cosine : Binary64 → Binary64
  | .finite s m e => Fine.round (Fine.cosine (Fine.reduced (Fine.ofExact (exactOf s m e)))) 0
  | _ => .nan

/-- The angle of the point with the given coordinates, the second one first. -/
def angleOf : Binary64 → Binary64 → Binary64
  | .finite s m e, .finite s' m' e' =>
    if m = 0 then
      if s' then Fine.round (if s then -Fine.halfTurn else Fine.halfTurn) 0 else zero s
    else
      let y := (exactOf false m e)
      let x := (exactOf false m' e')
      let up := y.num * x.den
      let along := x.num * y.den
      let first : Fine :=
        if up ≤ along then Fine.angle (up * Fine.one / along)
        else Fine.halfTurn / 2 - Fine.angle (along * Fine.one / up)
      let turned := if s' then Fine.halfTurn - first else first
      Fine.round (if s then -turned else turned) 0
  | .infinite s, .finite .. =>
    Fine.round (if s then -(Fine.halfTurn / 2) else Fine.halfTurn / 2) 0
  | .finite s _ _, .infinite s' =>
    if s' then Fine.round (if s then -Fine.halfTurn else Fine.halfTurn) 0 else zero s
  | _, _ => .nan

/-- The greatest exponent for which a power is worked out exactly. -/
def maxExactPower : Nat := 1100

/-- A number to the power of another one. -/
def power (x y : Binary64) : Binary64 :=
  if y.isZero then ofInt 1
  else match x, y, y.integer? with
    | .finite s m e, _, some n =>
      let (num, den) := ratio m e
      let isOdd := n % 2 != 0
      if m = 0 then (if n < 0 then .infinite (s && isOdd) else zero (s && isOdd))
      else if n.natAbs ≤ maxExactPower then
        let (a, b) := (Nat.pow num n.natAbs, Nat.pow den n.natAbs)
        if n < 0 then ofRatio (s && isOdd) b a else ofRatio (s && isOdd) a b
      else (Fine.exponential (n * Fine.logarithm num den)).withSign (s && isOdd)
    | .finite s m e, .finite s' m' e', none =>
      if m = 0 then (if s' then .infinite false else zero false)
      else if s then .nan
      else
        let (num, den) := ratio m e
        Fine.exponential
          (Fine.times (Fine.ofExact (exactOf s' m' e')) (Fine.logarithm num den))
    | .finite _ m e, .infinite s', _ =>
      match order? (.finite false m e) (ofInt 1) with
      | some .eq => ofInt 1
      | some .gt => if s' then zero false else .infinite false
      | _ => if s' then .infinite false else zero false
    | .infinite _, y, _ => if y.isNegative then zero false else .infinite false
    | _, _, _ => .nan

example : squareRoot (ofInt 16) = ofInt 4 := by decide +kernel
example : power (ofInt 2) (ofInt (-1)) = ofRatio false 1 2 := by decide +kernel
example : exponential (zero false) = ofInt 1 := by decide +kernel

end Binary64
end TestCoverage
