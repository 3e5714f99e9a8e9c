/-
  TestCoverage.Text.Quoted

  Text in double quotes, as error messages show it: quotes, backslashes and the common
  controls are escaped by a letter, other hidden characters by their number.
-/
import TestCoverage.Text.Hidden

namespace TestCoverage.Text

/-- A character inside quotes. -/
def escaped (c : Char) : List Char :=
  if c = '\x00' then ['\\', '0']
  else if c = '\t' then ['\\', 't']
  else if c = '\r' then ['\\', 'r']
  else if c = '\n' then ['\\', 'n']
  else if c = '"' ∨ c = '\\' then ['\\', c]
  else if isHidden c then
    ['\\', 'u', '\x7b'] ++ Nat.toDigits 16 c.toNat ++ ['\x7d']
  else [c]

/-- The text in double quotes. -/
def quoted (text : List Char) : String :=
  String.ofList ('"' :: text.flatMap escaped ++ ['"'])

example : quoted ['a', '\t', 'b', '\x07', '"'] = "\"a\\tb\\u\x7b7\x7d\\\"\"" := by decide +kernel

end TestCoverage.Text
