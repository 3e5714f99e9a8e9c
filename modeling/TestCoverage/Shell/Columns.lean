/-
  TestCoverage.Shell.Columns

  Programs that put texts side by side, or move them to columns.
-/
import TestCoverage.Filter.Tabs
import TestCoverage.Shell.Filters

namespace TestCoverage.Shell

namespace Utility

open Run TestCoverage.Filter

/-! ## Tabs -/

/-- The arguments with `-t` before tab stops that are written as options. -/
def withTabOptions (arguments : List (List Char)) : List (List Char) :=
  arguments.map fun argument => match argument with
    | '-' :: digits =>
      if digits.head?.any Char.isDigit ∧ digits.all (fun c => c.isDigit ∨ c = ',') then
        '-' :: 't' :: digits
      else argument
    | _ => argument

/-- A program that changes tabs or blanks in texts by the tab stops that are given. -/
def tabProgram (program : String) (known : Options)
    (change : TabStops → Arguments → List Char → List Char) : Utility := fun arguments =>
  withOptions program 1 known (fun arguments => do
    match tabStops ([','].intercalate (arguments.values 't')) with
    | .error fault => do
      object program fault.message
      return 1
    | .ok stops => do
      let (found, complete) ← texts program cannotRead (orInput arguments.operands)
      write 1 (change stops arguments found.flatten)
      return statusOf complete) (withTabOptions arguments)

/-- Writes spaces for tabs. -/
def expand : Utility :=
  tabProgram "expand"
    { flags := ['i'], valued := ['t'], names := [("initial", 'i'), ("tabs", 't')] }
    fun stops arguments => expanded stops (arguments.has 'i')

/-! ## Side by side -/

/-- The delimiters that a text lists.  The bound is its length. -/
def delimiters : Nat → List Char → List (List Char)
  | 0, _ | _, [] => []
  | bound + 1, '\\' :: c :: rest =>
    (if c = '0' then [] else [controlLetter c]) :: delimiters bound rest
  | bound + 1, c :: rest => [c] :: delimiters bound rest

/-- The options of `paste`. -/
def pasteOptions : Options where
  flags := ['s', 'z']
  valued := ['d']
  names := [("serial", 's'), ("delimiters", 'd'), ("zero-terminated", 'z')]

/-- The lines of each operand.  Those that are given to the program are dealt out to all dashes
    in turn. -/
def dealt (operands : List (List Char)) (lines : List (List (List Char))) :
    List (List (List Char)) :=
  let dashes := operands.filter (· = ['-'])
  let given := ((operands.zip lines).find? (·.1 = ['-'])).map (·.2)
  let share (i : Nat) : List (List Char) :=
    ((given.getD []).zipIdx.filter fun (_, place) => place % dashes.length = i).map (·.1)
  let (all, _) := (operands.zip lines).foldl (fun (all, i) (operand, own) =>
    if operand = ['-'] then (all ++ [share i], i + 1) else (all ++ [own], i)) ([], 0)
  all

/-- Writes lines side by side, or behind each other. -/
def paste : Utility :=
  withOptions "paste" 1 pasteOptions fun arguments => do
    let given := (arguments.value? 'd').getD ['\t']
    let between := match delimiters given.length given with
      | [] => [[]]
      | between => between
    let operands := orInput arguments.operands
    let found ← operands.mapM fun operand => do
      match ← operandText operand with
      | .ok text => return some (lines text)
      | .error reason => do
        object "paste" (cannotRead operand reason)
        return if reason = "Is a directory" then some [] else none
    let directories ← operands.filterM fun operand => do
      match (← files).find (← process).directory (path operand) with
      | .ok (_, node) => return node.isDirectory
      | .error _ => return false
    if arguments.has 's' then
      write 1 (ofLines ((found.filterMap id).map (join between)))
      return statusOf (found.all Option.isSome && directories.isEmpty)
    else
      if ¬ found.all Option.isSome then return 1
      write 1 (ofLines (parallel between (dealt operands (found.filterMap id))))
      return statusOf directories.isEmpty

end Utility
end TestCoverage.Shell
