/-
  TestCoverage.Filter.Width

  Lines cut where they become too wide.

  A tab goes on to the next of the places that are eight columns apart, a backspace goes back,
  and a carriage return goes to the beginning.
-/
import TestCoverage.Filter.Lines

namespace TestCoverage.Filter

/-- How lines are cut. -/
structure Folding where
  width : Nat := 80
  /-- every byte is one column -/
  countsBytes : Bool := false
  /-- lines are cut behind blanks, if there are any -/
  atBlanks : Bool := false

namespace Folding

/-- The column behind a character. -/
def next (folding : Folding) (column : Nat) (c : Char) : Nat :=
  if folding.countsBytes then column + 1
  else if c = '\x08' then column - 1
  else if c = '\r' then 0
  else if c = '\t' then column + 8 - column % 8
  else column + 1

/-- The column behind characters, the last one first. -/
def behind (folding : Folding) (reversed : List Char) : Nat :=
  reversed.foldr (fun c column => folding.next column c) 0

/-- Adds a character to a line whose last character comes first: the lines that are cut off, and
    what is left.  The bound is more than the length of the line. -/
def add (folding : Folding) : Nat → List Char → Char → List Char × List Char
  | 0, line, c => ([], c :: line)
  | bound + 1, line, c =>
    if folding.next (folding.behind line) c ≤ folding.width ∨ line.isEmpty then ([], c :: line)
    else
      let rest := line.takeWhile fun c => ¬ (c = ' ' ∨ c = '\t')
      if folding.atBlanks ∧ rest.length < line.length then
        let (cut, left) := folding.add bound rest c
        ((line.drop rest.length).reverse ++ '\n' :: cut, left)
      else
        (line.reverse ++ ['\n'], [c])

/-- A line, cut where it becomes too wide. -/
def cutLine (folding : Folding) (line : List Char) : List Char :=
  let (shown, left) := line.foldl (fun (shown, left) c =>
    let (cut, left) := folding.add (left.length + 1) left c
    (cut :: shown, left)) (([] : List (List Char)), ([] : List Char))
  shown.reverse.flatten ++ left.reverse

/-- The text with its lines cut. -/
def apply (folding : Folding) (text : List Char) : List Char :=
  (endedLines text).flatMap fun line =>
    folding.cutLine (withoutEnd line) ++ line.drop (withoutEnd line).length

example : apply { width := 2 } "abcde\n".toList = "ab\ncd\ne\n".toList := by decide +kernel
example : apply { width := 4, atBlanks := true } "ab cd ef\n".toList =
    "ab \ncd \nef\n".toList := by decide +kernel
example : apply { width := 4 } "a\tb\n".toList = "a\n\t\nb\n".toList := by decide +kernel

end Folding
end TestCoverage.Filter
