/-
  TestCoverage.Filter.Lines

  Text as lines, and what can be done with each line or with their order.
-/
import TestCoverage.Text.Pieces

namespace TestCoverage.Filter

/-! ## Lines -/

/-- The lines of a text with their ends.  Only the last one may have none. -/
def endedLines (text : List Char) : List (List Char) :=
  text.foldr (fun c lines =>
    if c = '\n' then [c] :: lines
    else match lines with
      | [] => [[c]]
      | line :: others => (c :: line) :: others) []

/-- A text cut behind each of its separators. -/
def endedBy (separator : Char) (text : List Char) : List (List Char) :=
  let swapped (c : Char) : Char :=
    if c = separator then '\n' else if c = '\n' then separator else c
  (endedLines (text.map swapped)).map (List.map swapped)

/-- A line without its end. -/
def withoutEnd (line : List Char) : List Char :=
  if line.getLast? = some '\n' then line.dropLast else line

/-- The lines of a text without their ends. -/
def lines (text : List Char) : List (List Char) :=
  (endedLines text).map withoutEnd

/-- The text of lines, each with an end. -/
def ofLines (lines : List (List Char)) : List Char :=
  lines.flatMap (· ++ ['\n'])

/-! ## Beginnings and ends -/

/-- A part of a text or of its lines. -/
inductive Portion where
  | first (count : Nat)
  | allButLast (count : Nat)
  | last (count : Nat)
  /-- without so many at the beginning -/
  | behind (count : Nat)
deriving DecidableEq, Repr

/-- The part of a list. -/
def Portion.of {α : Type} (portion : Portion) (items : List α) : List α :=
  match portion with
  | first count => items.take count
  | allButLast count => items.take (items.length - count)
  | last count => items.drop (items.length - count)
  | behind count => items.drop count

/-- The part of the lines of a text. -/
def Portion.ofText (portion : Portion) (text : List Char) : List Char :=
  (portion.of (endedLines text)).flatten

/-! ## Order and direction -/

/-- The parts of a text with what separates them at their ends.  The bound is more than the
    length of the text. -/
def endedParts (separator : List Char) : Nat → List Char → List Char → List (List Char)
  | 0, part, text => [part.reverse ++ text]
  | _, [], [] => []
  | _, part, [] => [part.reverse]
  | bound + 1, part, c :: text =>
    if separator.isPrefixOf (c :: text) ∧ ¬ separator.isEmpty then
      (part.reverse ++ separator)
        :: endedParts separator bound [] ((c :: text).drop separator.length)
    else endedParts separator bound (c :: part) text

/-- The parts of a text in the other order.  What separates them belongs to the part before it,
    or to the one behind it. -/
def reverseParts (separator : List Char) (belongsBehind : Bool) (text : List Char) : List Char :=
  if belongsBehind then
    ((endedParts separator.reverse (text.length + 1) [] text.reverse).map List.reverse).flatten
  else (endedParts separator (text.length + 1) [] text).reverse.flatten

/-- The characters of each line in the other order. -/
def reverseEachLine (text : List Char) : List Char :=
  (endedLines text).flatMap fun line =>
    (withoutEnd line).reverse ++ line.drop (withoutEnd line).length

/-! ## Counting -/

/-- White space between words. -/
def isSpace (c : Char) : Bool :=
  c == ' ' || ('\t' ≤ c && c ≤ '\r')

/-- The number of words, by the white space in front of their first characters. -/
def countWords (text : List Char) : Nat :=
  (text.foldl (fun (count, wasSpace) c =>
    (if wasSpace && !isSpace c then count + 1 else count, isSpace c)) (0, true)).1

/-- A number at the end of a field of the given width. -/
def alignRight (width : Nat) (text : List Char) : List Char :=
  List.replicate (width - text.length) ' ' ++ text

/-- A number in decimal digits. -/
def decimal (n : Nat) : List Char :=
  Nat.toDigits 10 n

/-! ## Groups of equal lines -/

/-- The lines with those that stand in a row and are the same together. -/
def rows (same : List Char → List Char → Bool) (lines : List (List Char)) :
    List (List (List Char)) :=
  lines.foldr (fun line rows =>
    match rows with
    | (other :: row) :: rest =>
      if same line other then (line :: other :: row) :: rest else [line] :: rows
    | _ => [line] :: rows) []

/-- The lines with the number of times that each stands in a row. -/
def groups (same : List Char → List Char → Bool) (lines : List (List Char)) :
    List (List Char × Nat) :=
  (rows same lines).map fun row => (row.headD [], row.length)

/-- Where empty lines stand when all lines of groups are shown. -/
inductive GroupEdges where
  | nowhere
  | before
  | between
  | behind
  | both
deriving DecidableEq, Repr

/-- What is shown of groups of equal lines. -/
structure Grouping where
  counts : Bool := false
  /-- all lines are shown, and not one of each group -/
  showsAll : Option GroupEdges := none
  onlyRepeated : Bool := false
  onlySingle : Bool := false
  foldsCase : Bool := false
  /-- the first so many words are not compared -/
  skippedFields : Nat := 0
  /-- the next so many characters are not compared -/
  skipped : Nat := 0
  /-- only so many characters are compared, if it is said -/
  compared : Option Nat := none

/-- The text behind so many words, with the white space before the next one. -/
def behindWords : Nat → List Char → List Char
  | 0, text => text
  | count + 1, text => behindWords count ((text.dropWhile isSpace).dropWhile (!isSpace ·))

/-- What is compared of a line. -/
def Grouping.key (grouping : Grouping) (line : List Char) : List Char :=
  let text := (behindWords grouping.skippedFields line).drop grouping.skipped
  let text := match grouping.compared with
    | some count => text.take count
    | none => text
  if grouping.foldsCase then text.map Char.toLower else text

/-- Two lines count as equal. -/
def Grouping.same (grouping : Grouping) (a b : List Char) : Bool :=
  grouping.key a == grouping.key b

/-- Groups with empty lines where they are to be. -/
def GroupEdges.apply (edges : GroupEdges) (groups : List (List (List Char))) :
    List (List Char) :=
  let gap : List (List Char) := [[]]
  match edges with
  | .nowhere => groups.flatten
  | .before => groups.flatMap (gap ++ ·)
  | .between => gap.intercalate groups
  | .behind => groups.flatMap (· ++ gap)
  | .both => if groups.isEmpty then [] else gap ++ groups.flatMap (· ++ gap)

/-- One line for each group of equal lines, or all of them. -/
def Grouping.apply (grouping : Grouping) (text : List Char) : List Char :=
  let shown := (rows grouping.same (lines text)).filter fun row =>
    (!grouping.onlyRepeated || 1 < row.length) && (!grouping.onlySingle || row.length == 1)
  ofLines (match grouping.showsAll with
    | some edges => edges.apply shown
    | none => shown.map fun row =>
      let line := row.headD []
      if grouping.counts then alignRight 7 (decimal row.length) ++ ' ' :: line else line)

/-! ## Columns -/

/-- A range of positions, counted from one. -/
structure Range where
  low : Nat
  high : Option Nat
deriving DecidableEq, Repr

/-- The position is in one of the ranges. -/
def isSelected (ranges : List Range) (position : Nat) : Bool :=
  ranges.any fun range => range.low ≤ position && range.high.all (position ≤ ·)

/-- The number that a text of digits writes. -/
def number? (text : List Char) : Option Nat :=
  if text.isEmpty ∨ ¬ text.all Char.isDigit then none
  else some (text.foldl (fun n c => n * 10 + (c.toNat - '0'.toNat)) 0)

/-- What is wrong with a list of ranges. -/
inductive RangeFault where
  | zero
  | decreasing
  | noEndpoint
  | twoDashes
  /-- something else than a digit, and what stands behind it -/
  | invalid (rest : List Char)
deriving DecidableEq, Repr

/-- The range that a text writes: a position, or two with a dash between them of which one
    may be missing. -/
def range (text : List Char) : Except RangeFault Range :=
  let low := text.takeWhile Char.isDigit
  match text.drop low.length, number? low with
  | [], some (n + 1) => .ok ⟨n + 1, some (n + 1)⟩
  | [], _ => .error .zero
  | '-' :: _, some 0 => .error .zero
  | '-' :: rest, first =>
    let high := rest.takeWhile Char.isDigit
    match rest.drop high.length, first, number? high with
    | [], none, none => .error .noEndpoint
    | [], first, some m =>
      if m < first.getD 1 then .error .decreasing else .ok ⟨first.getD 1, some m⟩
    | [], some n, none => .ok ⟨n, none⟩
    | '-' :: _, _, _ => .error .twoDashes
    | rest, _, _ => .error (.invalid rest)
  | rest, _ => .error (.invalid rest)

/-- The ranges that texts write. -/
def rangesIn : List (List Char) → Except RangeFault (List Range)
  | [] => .ok []
  | text :: texts =>
    match range text with
    | .ok first => (rangesIn texts).map (first :: ·)
    | .error (.invalid rest) => .error (.invalid ([','].intercalate (rest :: texts)))
    | .error fault => .error fault

/-- The ranges that a text lists, with commas or blanks between them. -/
def ranges (text : List Char) : Except RangeFault (List Range) :=
  rangesIn (Text.pieces ',' (text.map fun c => if c == ' ' || c == '\t' then ',' else c))

/-- The items at the selected positions. -/
def select {α : Type} (keeps : Nat → Bool) (items : List α) : List α :=
  (items.zipIdx.filter fun (_, index) => keeps (index + 1)).map (·.1)

/-- The selected fields of a line, between delimiters.  A line without a delimiter is left
    as it is, or left out. -/
def cutFields (keeps : Nat → Bool) (delimiter : Char) (joint : List Char) (onlyDelimited : Bool)
    (line : List Char) : Option (List Char) :=
  if line.contains delimiter then
    some (joint.intercalate (select keeps (Text.pieces delimiter line)))
  else if onlyDelimited then none
  else some line

/-! ## Joining -/

/-- Texts with delimiters between them, which are taken in turn. -/
def join (delimiters : List (List Char)) (texts : List (List Char)) : List Char :=
  match texts with
  | [] => []
  | first :: rest =>
    first ++ (rest.zipIdx.flatMap fun (text, index) =>
      (delimiters[index % delimiters.length]?).getD [] ++ text)

/-- The lines of several texts side by side. -/
def parallel (delimiters : List (List Char)) (texts : List (List (List Char))) :
    List (List Char) :=
  let height := texts.foldl (fun height lines => max height lines.length) 0
  (List.range height).map fun row => join delimiters (texts.map fun lines => lines.getD row [])

/-- A list cut into pieces of a width.  The bound is the length of the list. -/
def chunks {α : Type} (width : Nat) : Nat → List α → List (List α)
  | 0, list => [list]
  | bound + 1, list =>
    let rest := list.drop width
    if rest.isEmpty ∨ width = 0 then [list] else list.take width :: chunks width bound rest

/-! ## Examples -/

example : (Portion.allButLast 1).ofText "a\nb\nc".toList = "a\nb\n".toList := by decide +kernel
example : reverseParts [','] true "a,b,c".toList = ",c,ba".toList := by decide +kernel
example : ({ counts := true } : Grouping).apply "x\nx\ny\n".toList =
    "      2 x\n      1 y\n".toList := by decide +kernel
example : (ranges "1,3-5,7-".toList).toOption = some [⟨1, some 1⟩, ⟨3, some 5⟩, ⟨7, none⟩] := by
  decide +kernel
example : cutFields (isSelected [⟨2, some 2⟩]) ':' [':'] false "a:b:c".toList =
    some ['b'] := by decide +kernel
example : join [[',']] ["1".toList, "2".toList] = "1,2".toList := by decide +kernel

end TestCoverage.Filter
