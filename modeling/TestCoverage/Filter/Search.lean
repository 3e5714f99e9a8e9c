/-
  TestCoverage.Filter.Search

  Lines in which a pattern is found.
-/
import TestCoverage.Filter.Lines
import TestCoverage.Filter.Regex

namespace TestCoverage.Filter

/-- How lines are searched. -/
structure Search where
  patterns : List Regex
  foldsCase : Bool := false
  /-- lines without a match are meant -/
  inverted : Bool := false
  wholeWords : Bool := false
  wholeLines : Bool := false

namespace Search

/-- The match will do: it is not inside of a word, and not inside of a line, if that is asked
    for. -/
def suits (search : Search) (found : Regex.Match) : Bool :=
  let before := found.opened.previous
  let behind := found.closed.rest.head?
  (!search.wholeWords || (!before.any CharSet.isWord && !behind.any CharSet.isWord))
    && (!search.wholeLines || (before.isNone && behind.isNone))

/-- The first match from a place on, and the longest of those that begin there. -/
def find? (search : Search) (place : Place) : Option Regex.Match :=
  search.patterns.foldl (fun best regex =>
    match best, regex.search? search.foldsCase search.suits (place.rest.length + 1) place with
    | none, found => found
    | best, none => best
    | some best, some found =>
      if found.opened.index < best.opened.index
          ∨ (found.opened.index = best.opened.index ∧ best.closed.index < found.closed.index) then
        some found
      else some best) none

/-- The line is one of those that are meant. -/
def selects (search : Search) (line : List Char) : Bool :=
  search.inverted != (search.find? { rest := line }).isSome

/-- The matches in a line, but for empty ones.  The bound is more than the characters behind the
    place. -/
def matchesFrom (search : Search) : Nat → Place → List Regex.Match
  | 0, _ => []
  | bound + 1, place =>
    match search.find? place with
    | none => []
    | some found =>
      if found.text.isEmpty then
        match found.closed.rest with
        | [] => []
        | c :: rest =>
          matchesFrom search bound
            { found.closed with index := found.closed.index + 1, previous := some c, rest }
      else found :: matchesFrom search bound found.closed

/-- The matches in a line. -/
def matchesIn (search : Search) (line : List Char) : List Regex.Match :=
  search.matchesFrom (line.length + 1) { rest := line }

/-- A line with its matches shown in another way. -/
def highlighted (search : Search) (mark : List Char → List Char) (line : List Char) :
    List Char :=
  let (shown, place) := (search.matchesIn line).foldl (fun (shown, place) found =>
    (shown ++ (line.drop place).take (found.opened.index - place) ++ mark found.text,
      found.closed.index)) ([], 0)
  shown ++ line.drop place

/-- The lines that are meant, with their numbers, and no more than the given number of
    them. -/
def select (search : Search) (limit : Option Nat) (text : List Char) :
    List (Nat × List Char) :=
  let found := ((lines text).zipIdx.filter fun (line, _) => search.selects line).map
    fun (line, index) => (index + 1, line)
  match limit with
  | some n => found.take n
  | none => found

/-- Lines that are meant, by their numbers, with so many lines before and behind each, and
    nothing between parts that do not touch.  The result tells which lines are meant.  Without
    other lines around them nothing stands between the parts. -/
def withContext (before behind : Nat) (meant : List Nat) (lines : List (List Char)) :
    List (Option (Nat × List Char × Bool)) :=
  let near (number : Nat) : Bool :=
    meant.any fun other => number ≤ other + behind && other ≤ number + before
  let shown := (lines.zipIdx 1).filter fun (_, number) => near number
  let (found, _) := shown.foldl (fun (found, last) (line, number) =>
    let gap := if last + 1 < number ∧ 0 < last ∧ 0 < before + behind then [none] else []
    (some (number, line, meant.contains number) :: gap ++ found, number))
    (([] : List (Option (Nat × List Char × Bool))), 0)
  found.reverse

example : ((Regex.parse {} "a*b".toList).toOption.map fun regex =>
      (({ patterns := [regex] } : Search).matchesIn "aab-b".toList).map Regex.Match.text) =
    some ["aab".toList, "b".toList] := by decide +kernel
example : ((Regex.parse {} "b".toList).toOption.map fun regex =>
      ({ patterns := [regex], wholeWords := true } : Search).select none "ab\nb c\n".toList) =
    some [(2, "b c".toList)] := by decide +kernel

example : withContext 0 1 [1, 4] [['a'], ['b'], ['c'], ['d']] =
    [some (1, ['a'], true), some (2, ['b'], false), none, some (4, ['d'], true)] := by
  decide +kernel

end Search
end TestCoverage.Filter
