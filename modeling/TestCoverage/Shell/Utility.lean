/-
  TestCoverage.Shell.Utility

  Programs that need nothing but the channels, the files and the variables of a process.
-/
import TestCoverage.Filter.Arguments
import TestCoverage.Shell.Condition
import TestCoverage.Shell.Format
import TestCoverage.Shell.State

namespace TestCoverage.Shell

/-- A program: what it does with its arguments, and the status with which it ends. -/
abbrev Utility := List (List Char) → Run Nat

namespace Utility

open Run

/-- The status of a truth value. -/
def statusOf (b : Bool) : Nat :=
  if b then 0 else 1

/-- The number that a whole text writes in decimal digits. -/
def number? (text : List Char) : Option Nat :=
  if text.isEmpty ∨ ¬ text.all Char.isDigit then none else some (Expression.ofDigits 10 text)

/-- A path as it is given in a script. -/
def path (text : List Char) : Path :=
  Text.ofOctets text

/-- An error about a file, as a program reports it. -/
def describe : FileError → String
  | .notFound => "No such file or directory"
  | .notADirectory => "Not a directory"
  | .permissionDenied => "Permission denied"
  | .nameTooLong => "File name too long"
  | .tooManyLinks => "Too many levels of symbolic links"

/-- Why a program is not started, as the shell reports it, and the status for it. -/
def refusal : StartError → String × Nat
  | .notFound | .notADirectory => ("not found", 127)
  | .nameTooLong => ("File name too long", 127)
  | .tooManyLevels => ("Too many levels of symbolic links", 127)
  | .argumentsTooLong => ("Argument list too long", 126)
  | _ => ("Permission denied", 126)

/-- The path of a place. -/
def pathOf (location : Location) : List Char :=
  '/' :: ['/'].intercalate (location.map Text.octets)

/-- Does nothing, with a status. -/
def idle (status : Nat) : Utility := fun _ => return status

/-- The name and the value of an assignment. -/
def splitAssignment (text : List Char) : String × Option (List Char) :=
  let name := text.takeWhile (· ≠ '=')
  match text.dropWhile (· ≠ '=') with
  | '=' :: value => (String.ofList name, some value)
  | _ => (String.ofList name, none)

/-! ## Arguments -/

/-- The options at the beginning of arguments, and the other arguments. -/
def optionsOf (flags valued : List Char) (arguments : List (List Char)) :
    Run Filter.Arguments := do
  match Filter.Arguments.parse { flags, valued, first := true } arguments with
  | .ok parsed => return parsed
  | .error (.unknown letter) => fail ("Illegal option -".toList ++ [letter])
  | .error (.unnamed _) | .error (.missingNamed _) | .error (.ambiguous ..) =>
    fail "Illegal option --".toList
  | .error (.missing letter) => fail ("No arg for -".toList ++ letter :: " option".toList)

/-- The number that an argument has to write. -/
def numberFrom (text : List Char) : Run Nat := do
  match number? text with
  | some n => return n
  | none => fail ("Illegal number: ".toList ++ text)

/-! ## Writing -/

/-- Writes its arguments. -/
def echo : Utility := fun arguments => do
  write 1 (Format.shellEcho arguments)
  return 0

/-- Writes its arguments by a format. -/
def printf : Utility := fun arguments => do
  let arguments := match arguments with
    | ['-', '-'] :: rest => rest
    | _ => arguments
  match arguments with
  | [] => fail "usage: printf format [arg ...]".toList
  | format :: arguments => do
    let result := Format.write .shell format arguments
    result.mistakes.forM fun mistake => complain mistake.message
    write 1 result.text
    return if result.mistakes.any Format.Mistake.ends then 2
      else statusOf result.mistakes.isEmpty

/-- Writes the directory of the process: the path by which it has been reached, or the one
    without links if it is to be `physical` and the options do not say otherwise. -/
def pwd (physical : Bool) : Utility := fun arguments => do
  let parsed ← optionsOf ['L', 'P'] [] arguments
  let physical := match parsed.last? ['L', 'P'] with
    | some letter => letter == 'P'
    | none => physical
  let directory := (← process).directory
  let found := (← files).locate directory Path.here
  let shown := if physical then found.toOption.getD directory else directory
  write 1 (pathOf shown ++ ['\n'])
  return 0

/-! ## Conditions -/

/-- A property of a file. -/
def nodeProperty (name : Char) (node : Node) : Bool :=
  match name, node with
  | 'e', _ | 'r', _ | 'w', _ | 'O', _ | 'G', _ => true
  | 'f', .file .. | 'f', .program _ => true
  | 'd', .directory _ | 'x', .program _ | 's', .program _ => true
  | 's', .directory _ | 'c', .device _ => true
  | 'x', .directory rights | 'x', .file _ rights => rights.allowRunning
  | 'u', .directory rights | 'u', .file _ rights => rights.land 0o4000 != 0
  | 'g', .directory rights | 'g', .file _ rights => rights.land 0o2000 != 0
  | 'k', .directory rights | 'k', .file _ rights => rights.land 0o1000 != 0
  | 's', .file contents _ => !contents.isEmpty
  | _, _ => false

/-- A property of what a path leads to, or of the link that it names. -/
def property (files : Files) (directory : Location) (name : Char) (argument : List Char) :
    Bool :=
  if name = 'h' ∨ name = 'L' then
    match files.findEntry directory (path argument) with
    | .ok (_, node) => node.isLink
    | .error _ => false
  else match files.find directory (path argument) with
    | .ok (_, node) => nodeProperty name node
    | .error _ => false

/-- Two paths lead to the same place. -/
def isSame (files : Files) (directory : Location) (a b : List Char) : Bool :=
  match files.find directory (path a), files.find directory (path b) with
  | .ok (first, _), .ok (second, _) => first = second
  | _, _ => false

/-- Decides a condition. -/
def test : Utility := fun arguments => do
  let files ← files
  let directory := (← process).directory
  match Condition.decideWords ⟨property files directory, isSame files directory⟩ arguments with
  | .ok holds => return statusOf holds
  | .error fault => fail fault.message

/-- Decides a condition that is written in brackets. -/
def bracket : Utility := fun arguments => do
  if arguments.getLast? = some [']'] then test arguments.dropLast
  else fail "missing ]".toList

end Utility
end TestCoverage.Shell
