/-
  TestCoverage.Filter.Report

  How the differences between two texts are shown.
-/
import TestCoverage.Filter.Difference
import TestCoverage.Filter.Lines

namespace TestCoverage.Filter

/-! ## Which lines are the same -/

/-- How lines are compared. -/
structure Likeness where
  ignoresCase : Bool := false
  /-- white space does not count at all -/
  ignoresSpace : Bool := false
  /-- how much white space there is does not count -/
  ignoresAmount : Bool := false
  /-- changes of nothing but empty lines do not count -/
  ignoresEmpty : Bool := false

/-- The words of a line with single spaces before them, as far as there are spaces. -/
def withSingleSpaces : List Char → List Char
  | [] => []
  | c :: rest =>
    if isSpace c then
      match withSingleSpaces rest with
      | [] => []
      | ' ' :: rest => ' ' :: rest
      | rest => ' ' :: rest
    else c :: withSingleSpaces rest

/-- What of a line is compared. -/
def Likeness.key (likeness : Likeness) (line : List Char) : List Char :=
  let line :=
    if likeness.ignoresSpace then line.filter (!isSpace ·)
    else if likeness.ignoresAmount then withSingleSpaces line
    else line
  if likeness.ignoresCase then line.map Char.toLower else line

/-- The change counts. -/
def Likeness.counts (likeness : Likeness) (old new : List (List Char)) (change : Change) : Bool :=
  !likeness.ignoresEmpty || !((old.drop change.old).take change.deleted
    ++ (new.drop change.new).take change.inserted).all (fun line => (withoutEnd line).isEmpty)

/-! ## Showing changes -/

/-- A line behind a mark.  It is told if the line has no end. -/
def markedLine (mark line : List Char) : List Char :=
  if line.getLast? = some '\n' then mark ++ line
  else mark ++ line ++ "\n\\ No newline at end of file\n".toList

/-- The numbers of so many lines from a place on, counted from one. -/
def lineNumbers (place count : Nat) : List Char :=
  if 1 < count then decimal (place + 1) ++ ',' :: decimal (place + count)
  else decimal (place + count)

/-- A change as it is usually shown: the numbers of the lines, what is deleted, and what is
    inserted. -/
def Change.text (old new : List (List Char)) (change : Change) : List Char :=
  let letter := if change.deleted = 0 then 'a' else if change.inserted = 0 then 'd' else 'c'
  let deleted := ((old.drop change.old).take change.deleted).flatMap (markedLine "< ".toList)
  let inserted := ((new.drop change.new).take change.inserted).flatMap (markedLine "> ".toList)
  let newNumbers := lineNumbers change.new change.inserted
  lineNumbers change.old change.deleted ++ letter :: newNumbers ++ ['\n']
    ++ deleted ++ (if letter = 'c' then "---\n".toList else []) ++ inserted

/-- Changes that are near each other belong together: not more than twice so many lines are
    between them. -/
def together (context : Nat) : List Change → List (List Change)
  | [] => []
  | change :: rest =>
    match together context rest with
    | (next :: group) :: groups =>
      if next.old ≤ change.old + change.deleted + 2 * context then
        (change :: next :: group) :: groups
      else [change] :: (next :: group) :: groups
    | groups => [change] :: groups

/-- The range of so many lines from a place on, as a head of changes shows it. -/
def headRange (place count : Nat) : List Char :=
  if count = 1 then decimal (place + 1)
  else decimal (if count = 0 then place else place + 1) ++ ',' :: decimal count

/-- The lines of changes that belong together, from a place of the old text to another. -/
def groupLines (old new : List (List Char)) : List Change → Nat → Nat → List Char
  | [], place, finish =>
    ((old.drop place).take (finish - place)).flatMap (markedLine [' '])
  | change :: rest, place, finish =>
    ((old.drop place).take (change.old - place)).flatMap (markedLine [' '])
      ++ ((old.drop change.old).take change.deleted).flatMap (markedLine ['-'])
      ++ ((new.drop change.new).take change.inserted).flatMap (markedLine ['+'])
      ++ groupLines old new rest (change.old + change.deleted) finish

/-- Changes that belong together, with so many lines around them. -/
def groupText (context : Nat) (old new : List (List Char)) (group : List Change) : List Char :=
  match group.head?, group.getLast? with
  | some first, some last =>
    let before := min context (min first.old first.new)
    let oldEnd := min (last.old + last.deleted + context) old.length
    let newEnd := min (last.new + last.inserted + context) new.length
    let start := first.old - before
    let newStart := first.new - before
    "@@ -".toList ++ headRange start (oldEnd - start) ++ " +".toList
      ++ headRange newStart (newEnd - newStart) ++ " @@\n".toList
      ++ groupLines old new group start oldEnd
  | _, _ => []

/-- The differences between texts as commands of an editor. -/
def editorText (new : List (List Char)) (changes : List Change) : List Char :=
  changes.reverse.flatMap fun change =>
    let letter := if change.deleted = 0 then 'a' else if change.inserted = 0 then 'd' else 'c'
    let inserted := ((new.drop change.new).take change.inserted).flatten
    lineNumbers change.old change.deleted ++ letter :: '\n' :: inserted
      ++ (if letter = 'd' then [] else ".\n".toList)

example : Change.text [['a', '\n']] [['b', '\n']] ⟨0, 1, 0, 1⟩ = "1c1\n< a\n---\n> b\n".toList := by
  decide +kernel

/-! ## The first difference -/

/-- How two texts differ first. -/
inductive FirstDifference where
  | none
  /-- at a byte of a line, both counted from one -/
  | byte (place line : Nat)
  /-- one of them ends first, behind so many bytes in a line, or at the end of one -/
  | ended (isFirst : Bool) (bytes line : Nat) (inLine : Bool)
deriving DecidableEq, Repr

/-- Compares two texts from a byte of a line on. -/
def firstDifference (a b : List Char) (place line : Nat) (inLine : Bool) : FirstDifference :=
  match a, b with
  | [], [] => .none
  | [], _ => .ended true (place - 1) line inLine
  | _, [] => .ended false (place - 1) line inLine
  | c :: a, d :: b =>
    if c ≠ d then .byte place line
    else if c = '\n' then firstDifference a b (place + 1) (line + 1) false
    else firstDifference a b (place + 1) line true

/-- The bytes that differ, with their places. -/
def differingBytes (a b : List Char) (place : Nat) : List (Nat × Char × Char) :=
  match a, b with
  | c :: a, d :: b =>
    let rest := differingBytes a b (place + 1)
    if c = d then rest else (place, c, d) :: rest
  | _, _ => []

end TestCoverage.Filter
