/-
  TestCoverage.Text.CharSet

  Sets of characters, given by ranges, and the names that some of them have.
-/

namespace TestCoverage

/-- A set of characters: those in the ranges, or all but those. -/
structure CharSet where
  negated : Bool := false
  ranges : List (Char × Char) := []
deriving DecidableEq, Repr

namespace CharSet

/-- The set of one character. -/
def exactly (c : Char) : CharSet where
  ranges := [(c, c)]

/-- The set of all characters. -/
def all : CharSet where
  negated := true

/-- The character of the other case. -/
def otherCase (c : Char) : Char :=
  if c.isUpper then c.toLower else c.toUpper

/-- The character is in the set, in either case if `fold` is set. -/
def accepts (set : CharSet) (fold : Bool) (c : Char) : Bool :=
  let isIn (c : Char) : Bool := set.ranges.any fun (low, high) => low ≤ c && c ≤ high
  set.negated != (isIn c || (fold && isIn (otherCase c)))

/-- The ranges of the characters that a name stands for. -/
def named? (name : String) : Option (List (Char × Char)) :=
  match name with
  | "alpha" => some [('A', 'Z'), ('a', 'z')]
  | "digit" => some [('0', '9')]
  | "alnum" => some [('0', '9'), ('A', 'Z'), ('a', 'z')]
  | "upper" => some [('A', 'Z')]
  | "lower" => some [('a', 'z')]
  | "space" => some [('\t', '\r'), (' ', ' ')]
  | "blank" => some [('\t', '\t'), (' ', ' ')]
  | "punct" => some [('!', '/'), (':', '@'), ('[', '\x60'), ('\x7b', '~')]
  | "print" => some [(' ', '~')]
  | "graph" => some [('!', '~')]
  | "cntrl" => some [('\x00', '\x1f'), ('\x7f', '\x7f')]
  | "xdigit" => some [('0', '9'), ('A', 'F'), ('a', 'f')]
  | _ => none

/-- Word characters. -/
def word : List (Char × Char) := [('0', '9'), ('A', 'Z'), ('_', '_'), ('a', 'z')]

/-- The character belongs to a word. -/
def isWord (c : Char) : Bool :=
  accepts { ranges := word } false c

end CharSet

end TestCoverage
