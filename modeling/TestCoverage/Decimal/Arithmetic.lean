/-
  TestCoverage.Decimal.Arithmetic

  Arithmetic on doubles: each result is the exact one, rounded once.
-/
import TestCoverage.Decimal.Binary64

namespace TestCoverage.Binary64

open Decimal (twoTo)

/-! ## Exact values -/

/-- A ratio with a sign. -/
structure Exact where
  num : Int
  den : Nat
deriving DecidableEq, Repr

/-- The exact value of a finite number. -/
def exactOf (negative : Bool) (significand : Nat) (exponent : Int) : Exact :=
  let (num, den) := ratio significand exponent
  ⟨if negative then -(num : Int) else num, den⟩

/-- The number nearest to an exact value. -/
def Exact.round (x : Exact) : Binary64 :=
  ofRatio (x.num < 0) x.num.natAbs x.den

/-- The number is less than zero, or is a zero with a minus. -/
def isNegative : Binary64 → Bool
  | .finite negative _ _ | .infinite negative => negative
  | .nan => false

/-- The number with the other sign. -/
def negated (x : Binary64) : Binary64 :=
  x.withSign (!x.isNegative)

/-! ## Operations -/

/-- The sum of two numbers. -/
def sum : Binary64 → Binary64 → Binary64
  | .finite s m e, .finite s' m' e' =>
    let a := exactOf s m e
    let b := exactOf s' m' e'
    let total : Exact := ⟨a.num * b.den + b.num * a.den, a.den * b.den⟩
    if total.num = 0 then zero (s && s') else total.round
  | .infinite s, .infinite s' => if s = s' then .infinite s else .nan
  | .infinite s, .finite .. | .finite .., .infinite s => .infinite s
  | .nan, _ | _, .nan => .nan

/-- The difference of two numbers. -/
def difference (x y : Binary64) : Binary64 :=
  sum x y.negated

/-- The product of two numbers. -/
def product : Binary64 → Binary64 → Binary64
  | .finite s m e, .finite s' m' e' =>
    let (num, den) := ratio (m * m') (e + e')
    ofRatio (s != s') num den
  | .nan, _ | _, .nan => .nan
  | x, y =>
    if x.isZero ∨ y.isZero then .nan else .infinite (x.isNegative != y.isNegative)

/-- The quotient of two numbers. -/
def quotient : Binary64 → Binary64 → Binary64
  | .nan, _ | _, .nan => .nan
  | .infinite _, .infinite _ => .nan
  | .infinite s, .finite s' _ _ => .infinite (s != s')
  | .finite s _ _, .infinite s' => zero (s != s')
  | .finite s m e, .finite s' m' e' =>
    if m' = 0 then (if m = 0 then .nan else .infinite (s != s'))
    else
      let (num, den) := ratio m (e - e')
      ofRatio (s != s') num (den * m')

/-- What is left of a number after another has been taken away as often as it goes.  It has the
    sign of the first. -/
def remainder : Binary64 → Binary64 → Binary64
  | .finite s m e, .finite _ m' e' =>
    if m' = 0 then .nan
    else
      let (a, b) := ratio m e
      let (c, d) := ratio m' e'
      ofRatio s (a * d % (c * b)) (b * d)
  | .finite s m e, .infinite _ => .finite s m e
  | _, _ => .nan

/-- The order of two numbers; none if one of them is no number. -/
def order? : Binary64 → Binary64 → Option Ordering
  | .nan, _ | _, .nan => none
  | .infinite s, .infinite s' =>
    some (if s = s' then .eq else if s then .lt else .gt)
  | .infinite s, .finite .. => some (if s then .lt else .gt)
  | .finite .., .infinite s => some (if s then .gt else .lt)
  | .finite s m e, .finite s' m' e' =>
    let a := exactOf s m e
    let b := exactOf s' m' e'
    some (compare (a.num * b.den) (b.num * a.den))

/-- The whole part of a number; nothing if it has none. -/
def whole? : Binary64 → Option Int
  | .finite s m e =>
    let (num, den) := ratio m e
    some (if s then -(num / den : Nat) else (num / den : Nat))
  | _ => none

/-- The integer that a number is, if it is one. -/
def integer? : Binary64 → Option Int
  | .finite s m e =>
    let (num, den) := ratio m e
    if num % den = 0 then some (if s then -(num / den : Nat) else (num / den : Nat)) else none
  | _ => none

/-- The number nearest to an integer. -/
def ofInt (n : Int) : Binary64 :=
  ofRatio (n < 0) n.natAbs 1

example : sum (ofInt 2) (ofInt (-3)) = ofInt (-1) := by decide +kernel
example : quotient (ofInt 7) (ofInt 2) = ofRatio false 7 2 := by decide +kernel
example : quotient (ofInt 1) (zero true) = .infinite true := by decide +kernel
example : remainder (ofInt (-5)) (ofInt 3) = ofInt (-2) := by decide +kernel
example : order? (ofInt (-1)) (ofRatio false 1 2) = some .lt := by decide +kernel

end TestCoverage.Binary64
