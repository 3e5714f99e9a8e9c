/-
  TestCoverage.Filter.Tabs

  Tabs and the spaces for which they stand.
-/
import TestCoverage.Filter.Lines

namespace TestCoverage.Filter

/-! ## Tab stops -/

/-- Where tabs lead behind the last stop that is listed. -/
inductive TabRest where
  /-- to the next column -/
  | single
  /-- to the next multiple of a size -/
  | multiple (size : Nat)
  /-- to the next multiple of a size, counted from the last stop -/
  | further (size : Nat)
deriving DecidableEq, Repr

/-- The columns to which tabs lead. -/
structure TabStops where
  listed : List Nat := []
  rest : TabRest := .multiple 8
deriving DecidableEq, Repr

/-- The column to which a tab leads from another column; none behind the last stop. -/
def TabStops.next? (stops : TabStops) (column : Nat) : Option Nat :=
  match stops.listed.find? (column < ·), stops.rest with
  | some stop, _ => some stop
  | none, .single => none
  | none, .multiple size => some (column / size * size + size)
  | none, .further size =>
    let last := stops.listed.getLast?.getD 0
    some (last + (column - last) / size * size + size)

/-- What is wrong with a list of tab stops. -/
inductive TabFault where
  | wrong (text : List Char)
  | zero
  | descending
deriving DecidableEq, Repr

/-- The fault in words. -/
def TabFault.message : TabFault → List Char
  | wrong text => "tab size contains invalid character(s): '".toList ++ text ++ ['\u0027']
  | zero => "tab size cannot be 0".toList
  | descending => "tab sizes must be ascending".toList

/-- The numbers are all more than zero, and each is more than the one before. -/
def isAscending : Nat → List Nat → Bool
  | _, [] => true
  | before, n :: rest => before < n && isAscending n rest

/-- The tab stops that a text lists, with commas or blanks between them.  One number alone is the
    distance of all stops. -/
def tabStops (text : List Char) : Except TabFault TabStops :=
  let parts := (Text.pieces ',' (text.map fun c => if c = ' ' then ',' else c)).filter
    (!·.isEmpty)
  let (last, rest?) := match parts.getLast? with
    | some ('/' :: digits) => (digits, some TabRest.multiple)
    | some ('+' :: digits) => (digits, some TabRest.further)
    | _ => (['1'], none)
  let plain := if rest?.isSome then parts.dropLast else parts
  match (plain ++ [last]).find? fun part => ¬ part.all Char.isDigit with
  | some part => .error (.wrong (part.dropWhile Char.isDigit))
  | none =>
    let numbers := plain.map fun part => (number? part).getD 0
    if numbers.contains 0 ∨ (number? last).getD 0 = 0 then .error .zero
    else if ¬ isAscending 0 numbers then .error .descending
    else match numbers, rest? with
      | [size], none => .ok { rest := .multiple size }
      | [], none => .ok {}
      | numbers, none => .ok { listed := numbers, rest := .single }
      | numbers, some rest => .ok { listed := numbers, rest := rest ((number? last).getD 1) }

/-! ## From tabs to spaces -/

/-- The text with spaces for tabs from a column on; with `initial` only for those before which
    there are nothing but blanks in their line. -/
def expandedFrom (stops : TabStops) (initial : Bool) :
    Nat → Bool → List Char → List Char
  | _, _, [] => []
  | column, converts, c :: rest =>
    if c = '\n' then '\n' :: expandedFrom stops initial 0 true rest
    else if ¬ converts then c :: expandedFrom stops initial column false rest
    else if c = '\t' then
      let next := (stops.next? column).getD (column + 1)
      List.replicate (next - column) ' ' ++ expandedFrom stops initial next true rest
    else
      let column := if c = '\x08' then column - 1 else column + 1
      c :: expandedFrom stops initial column (!initial || c = ' ') rest

/-- The text with spaces for tabs. -/
def expanded (stops : TabStops) (initial : Bool) (text : List Char) : List Char :=
  expandedFrom stops initial 0 true text

example : expanded { rest := .multiple 4 } false "a\tb\n".toList = "a   b\n".toList := by
  decide +kernel

end TestCoverage.Filter
