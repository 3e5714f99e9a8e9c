/-
  TestCoverage.Filter.Numbering

  Lines with numbers before them.

  A text may have pages with a head, a body and a foot.  Lines with nothing but a mark, once,
  twice or three times, stand before the foot, the body or the head of a page.
-/
import TestCoverage.Filter.Lines
import TestCoverage.Filter.Regex

namespace TestCoverage.Filter

/-- Which lines have a number. -/
inductive Numbered where
  | all
  | notEmpty
  | none
  | fitting (regex : Regex)

/-- The side on which a number stands in its field. -/
inductive NumberSide where
  | left
  | right
  /-- on the right, with zeros before it -/
  | zeros
deriving DecidableEq, Repr

/-- How lines are numbered. -/
structure Numbering where
  head : Numbered := .none
  body : Numbered := .notEmpty
  foot : Numbered := .none
  first : Int := 1
  step : Int := 1
  /-- so many empty lines count as one where all are numbered -/
  joined : Nat := 1
  side : NumberSide := .right
  width : Nat := 6
  separator : List Char := ['\t']
  mark : List Char := ['\\', ':']
  /-- the parts of a page are numbered on and on -/
  continues : Bool := false

namespace Numbering

/-- Where the numbering of lines stands. -/
structure Place where
  kind : Numbered
  number : Int
  empty : Nat := 0

/-- A number in its field. -/
def field (numbering : Numbering) (n : Int) : List Char :=
  let digits := decimal n.natAbs
  let sign := if n < 0 then ['-'] else []
  let gap := numbering.width - (sign.length + digits.length)
  match numbering.side with
  | .left => sign ++ digits ++ List.replicate gap ' '
  | .right => List.replicate gap ' ' ++ sign ++ digits
  | .zeros => sign ++ List.replicate gap '0' ++ digits

/-- The part of a page before which a line stands, if it has nothing but the mark. -/
def section? (numbering : Numbering) (line : List Char) : Option Numbered :=
  let mark := numbering.mark
  if mark.isEmpty then none
  else if line = mark ++ mark ++ mark then some numbering.head
  else if line = mark ++ mark then some numbering.body
  else if line = mark then some numbering.foot
  else none

/-- Whether a line has a number, and how many empty ones before the next one do not count. -/
def counts (numbering : Numbering) (place : Place) (line : List Char) : Bool × Nat :=
  match place.kind with
  | .all =>
    if ¬ line.isEmpty ∨ place.empty + 1 = numbering.joined ∨ numbering.joined < 2 then (true, 0)
    else (false, place.empty + 1)
  | .notEmpty => (!line.isEmpty, 0)
  | .none => (false, 0)
  | .fitting regex => (regex.occursIn false line, 0)

/-- A line as it is shown, and where the numbering stands behind it. -/
def showLine (numbering : Numbering) (place : Place) (line : List Char) : List Char × Place :=
  match numbering.section? line with
  | some kind =>
    let number := if numbering.continues then place.number else numbering.first
    (['\n'], { kind, number })
  | none =>
    let (isNumbered, empty) := numbering.counts place line
    if isNumbered then
      (numbering.field place.number ++ numbering.separator ++ line ++ ['\n'],
        { place with number := place.number + numbering.step, empty })
    else
      (List.replicate (numbering.width + numbering.separator.length) ' ' ++ line ++ ['\n'],
        { place with empty })

/-- The lines of a text with their numbers. -/
def apply (numbering : Numbering) (text : List Char) : List Char :=
  let start : Place := { kind := numbering.body, number := numbering.first }
  let (shown, _) := (lines text).foldl (fun (shown, place) line =>
    let (line, place) := numbering.showLine place line
    (line :: shown, place)) (([] : List (List Char)), start)
  shown.reverse.flatten

example : apply {} "a\n\nb".toList = "     1\ta\n       \n     2\tb\n".toList := by
  decide +kernel
example : apply { side := .zeros, width := 3, first := -1, separator := [':'] } "a\nb\n".toList =
    "-01:a\n000:b\n".toList := by decide +kernel

end Numbering
end TestCoverage.Filter
