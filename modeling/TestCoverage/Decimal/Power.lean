/-
  TestCoverage.Decimal.Power

  Powers of two, which bound binary numbers, and of ten, which scale decimal ones.
-/

namespace TestCoverage.Decimal

/-- A power of two. -/
def twoTo (n : Nat) : Nat :=
  Nat.pow 2 n

/-- A power of ten. -/
def tenTo (n : Nat) : Nat :=
  Nat.pow 10 n

end TestCoverage.Decimal
