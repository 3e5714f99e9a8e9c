/-
  TestCoverage.Text.Blank

  White space as Unicode defines it, and text without the white space around it.
-/

namespace TestCoverage.Text

/-- The character has the Unicode property White_Space. -/
def isBlank (c : Char) : Bool :=
  let n := c.toNat
  (0x9 ≤ n && n ≤ 0xD) || n == 0x20 || n == 0x85 || n == 0xA0 || n == 0x1680
    || (0x2000 ≤ n && n ≤ 0x200A) || n == 0x2028 || n == 0x2029 || n == 0x202F
    || n == 0x205F || n == 0x3000

/-- The text without the white space at its beginning. -/
def trimStart (text : List Char) : List Char :=
  text.dropWhile isBlank

/-- The text without the white space at its end. -/
def trimEnd (text : List Char) : List Char :=
  (text.reverse.dropWhile isBlank).reverse

/-- The text without the white space around it. -/
def trim (text : List Char) : List Char :=
  trimEnd (trimStart text)

example : trim ['\u00A0', 'a', ' ', 'b', '\u3000', '\n'] = ['a', ' ', 'b'] := by decide
example : trim ['\uFEFF', ' '] = ['\uFEFF'] := by decide

end TestCoverage.Text
