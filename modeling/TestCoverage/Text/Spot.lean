/-
  TestCoverage.Text.Spot

  Places in a text, by lines and columns.
-/

namespace TestCoverage.Text

/-- A place in a text: how many lines have ended before it, and how much has been read of
    its own line. -/
structure Spot where
  line : Nat
  column : Nat
deriving DecidableEq, Repr

namespace Spot

/-- The place where a text begins. -/
def start : Spot := ⟨0, 0⟩

/-- The place behind one more character. -/
def next (width : Char → Nat) (spot : Spot) (c : Char) : Spot :=
  if c = '\n' then ⟨spot.line + 1, 0⟩ else ⟨spot.line, spot.column + width c⟩

/-- The place behind a text. -/
def behind (width : Char → Nat) (text : List Char) : Spot :=
  text.foldl (next width) start

/-- The place of the last part of a text. -/
def ofRest (width : Char → Nat) (text rest : List Char) : Spot :=
  behind width (text.take (text.length - rest.length))

end Spot

example : Spot.ofRest (fun _ => 1) "a\nbcd".toList "d".toList = ⟨1, 2⟩ := by decide

end TestCoverage.Text
