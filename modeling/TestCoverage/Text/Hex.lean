/-
  TestCoverage.Text.Hex

  Hexadecimal digits.
-/

namespace TestCoverage.Text

/-- The value of a hexadecimal digit. -/
def hexDigit? (c : Char) : Option Nat :=
  if '0' ≤ c ∧ c ≤ '9' then some (c.toNat - '0'.toNat)
  else if 'a' ≤ c ∧ c ≤ 'f' then some (c.toNat - 'a'.toNat + 10)
  else if 'A' ≤ c ∧ c ≤ 'F' then some (c.toNat - 'A'.toNat + 10)
  else none

/-- The number written by hexadecimal digits, behind one that is already read. -/
def hexValue? (value : Nat) : List Char → Option Nat
  | [] => some value
  | c :: digits =>
    match hexDigit? c with
    | some d => hexValue? (value * 16 + d) digits
    | none => none

example : hexValue? 0 ['0', '0', 'e', '9'] = some 0xE9 := by decide
example : hexValue? 0 ['g'] = none := by decide

end TestCoverage.Text
