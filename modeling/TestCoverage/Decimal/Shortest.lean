/-
  TestCoverage.Decimal.Shortest

  The shortest decimal that reads back as a given double, and of several that short the
  nearest.

  A double stands for the interval of reals that round to it; the ends belong to it when
  the significand is even.  The decimals `d * 10 ^ k` form a grid for each `k`.  The
  coarsest grid with a point in the interval gives the fewest digits, and if a grid has a
  point in the interval then one of the value's two neighbours on it is such a point.
-/
import TestCoverage.Decimal.Binary64

namespace TestCoverage.Decimal

/-- Which of two equally near decimals is taken. -/
inductive Tie where
  | up
  | even
deriving DecidableEq, Repr

/-- The reals that round to a double, in quarters of a unit of the last place. -/
structure Interval where
  low : Nat
  value : Nat
  high : Nat
  closed : Bool
deriving DecidableEq, Repr

/-- The interval of `significand * 2 ^ exponent`, in units of `2 ^ (exponent - 2)`.
    Below a power of two the doubles lie twice as dense. -/
def Interval.of (significand : Nat) (exponent : Int) : Interval where
  low :=
    if significand = twoTo 52 ∧ Binary64.minExponent < exponent then 4 * significand - 1
    else 4 * significand - 2
  value := 4 * significand
  high := 4 * significand + 2
  closed := significand % 2 = 0

/-- Two factors that bring `d * 10 ^ k` and `x * 2 ^ e` to one unit. -/
def commonUnit (k e : Int) : Nat × Nat :=
  (tenTo k.toNat * twoTo (-e).toNat, twoTo e.toNat * tenTo (-k).toNat)

/-- The point of one grid that is taken for the value: its only neighbour inside the
    interval, or the nearer of the two. -/
def gridPoint? (tie : Tie) (interval : Interval) (e k : Int) : Option Nat :=
  let (ten, two) := commonUnit k e
  let inside (d : Nat) : Bool :=
    let x := d * ten
    if interval.closed then interval.low * two ≤ x && x ≤ interval.high * two
    else interval.low * two < x && x < interval.high * two
  let below := interval.value * two / ten
  match inside below, inside (below + 1) with
  | false, false => none
  | true, false => some below
  | false, true => some (below + 1)
  | true, true =>
    let twice := 2 * interval.value * two
    let middle := (2 * below + 1) * ten
    if twice < middle then some below
    else if middle < twice then some (below + 1)
    else match tie with
      | .up => some (below + 1)
      | .even => some (if below % 2 = 0 then below else below + 1)

/-- Tries the grids from `10 ^ k` on, each ten times finer than the one before. -/
def search (tie : Tie) (interval : Interval) (e : Int) : Nat → Int → Nat × Int
  | 0, k => (0, k)
  | grids + 1, k =>
    match gridPoint? tie interval e k with
    | some d => (d, k)
    | none => search tie interval e grids (k - 1)

/-- The digits and the exponent of ten of the shortest decimal for a positive double.
    The search begins above the leading digit, whose place follows from the length of the
    significand in bits, and seventeen digits always suffice. -/
def shortest (tie : Tie) (significand : Nat) (exponent : Int) : Nat × Int :=
  let start := (Nat.log2 significand + exponent) * 30103 / 100000 + 2
  search tie (.of significand exponent) (exponent - 2) 24 start

example : shortest .even (twoTo 52) (-52) = (1, 0) := by decide +kernel
example : shortest .even 1 (-1074) = (5, -324) := by decide +kernel
example : shortest .up 4503599627370497 (-2) = (11258999068426243, -1) := by decide +kernel
example : shortest .even 4503599627370497 (-2) = (11258999068426242, -1) := by decide +kernel

end TestCoverage.Decimal
