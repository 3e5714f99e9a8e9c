/-
  TestCoverage.Shell.Program

  Programs that are looked for by name, but for those that run other programs.
-/
import TestCoverage.Filter.Evaluation
import TestCoverage.Filter.Items
import TestCoverage.Shell.Columns
import TestCoverage.Shell.Comparison
import TestCoverage.Shell.Editing
import TestCoverage.Shell.Listing
import TestCoverage.Shell.Numbers
import TestCoverage.Shell.Searching

namespace TestCoverage.Shell

namespace Utility

open Run TestCoverage.Filter

/-! ## Names and expressions -/

/-- Writes a line over and over, until nobody reads it any more. -/
def yes : Utility := fun arguments => do
  let line := (if arguments.isEmpty then ['y'] else [' '].intercalate arguments) ++ ['\n']
  write 1 (List.replicate (endlessLength / line.length + 1) line).flatten
  throw (.killed 13)

/-- A name without an ending, unless it is nothing but that. -/
def withoutEnding (ending name : List Char) : List Char :=
  if ending.length < name.length ∧ ending.isSuffixOf name then
    name.take (name.length - ending.length)
  else name

/-- The options of `basename`. -/
def basenameOptions : Options where
  flags := ['a']
  valued := ['s']
  first := true
  names := [("multiple", 'a'), ("suffix", 's')]

/-- Writes the last parts of paths. -/
def basename : Utility :=
  withOptions "basename" 1 basenameOptions fun arguments => do
    let several := arguments.has 'a' || arguments.has 's'
    match arguments.operands, several with
    | [], _ => misused "basename" 1 "missing operand".toList
    | operands, true => do
      let ending := (arguments.value? 's').getD []
      write 1 (ofLines (operands.map fun operand => withoutEnding ending (lastPart operand)))
      return 0
    | [operand], false => do
      write 1 (lastPart operand ++ ['\n'])
      return 0
    | [operand, ending], false => do
      write 1 (withoutEnding ending (lastPart operand) ++ ['\n'])
      return 0
    | _ :: _ :: extra :: _, false =>
      misused "basename" 1 ("extra operand ".toList ++ inQuotes extra)

/-- Writes the paths of what the last parts of paths are in. -/
def dirname : Utility :=
  withOptions "dirname" 1 {} fun arguments => do
    if arguments.operands.isEmpty then misused "dirname" 1 "missing operand".toList
    else
      write 1 (ofLines (arguments.operands.map parentOf))
      return 0

/-- Writes the value of an expression. -/
def expr : Utility := fun arguments => do
  let arguments := match arguments with
    | ['-', '-'] :: rest => rest
    | _ => arguments
  if arguments.isEmpty then misused "expr" 2 "missing operand".toList
  else
    match Evaluation.value arguments with
    | .ok value => do
      write 1 (value ++ ['\n'])
      return statusOf (!Evaluation.isNull value)
    | .error mistake => do
      object "expr" mistake.message
      return 2

/-! ## Texts -/

/-- Writes its arguments, as their letters say. -/
def echoArguments : Utility := fun arguments => do
  write 1 (Format.programEcho arguments)
  return 0

/-- What is wrong with a format or an argument, as a program tells it. -/
def mistakeText : Format.Mistake → List Char
  | .noNumber argument => inQuotes argument ++ ": expected a numeric value".toList
  | .moreThanNumber argument => inQuotes argument ++ ": value not completely converted".toList
  | .range argument => inQuotes argument ++ ": Numerical result out of range".toList
  | .unknown conversion => conversion ++ ": invalid conversion specification".toList
  | .missing => "%: invalid conversion specification".toList

/-- Writes its arguments by a format. -/
def printByFormat : Utility := fun arguments => do
  let arguments := match arguments with
    | ['-', '-'] :: rest => rest
    | _ => arguments
  match arguments with
  | [] => misused "printf" 1 "missing operand".toList
  | format :: arguments => do
    let result := Format.write .printf format arguments
    result.mistakes.forM fun mistake => object "printf" (mistakeText mistake)
    write 1 result.text
    if let extra :: _ := result.rest then
      if ¬ result.ends ∧ ¬ result.taken then
        object "printf" ("warning: ignoring excess arguments, starting with ".toList
          ++ inQuotes extra)
    return statusOf result.mistakes.isEmpty

/-! ## The process and the system -/

/-- Writes the values of variables, or all variables. -/
def printenv : Utility := fun arguments => do
  let bindings ← exports
  if arguments.isEmpty then
    bindings.forM fun (name, value) =>
      write 1 (Text.octetsOf name ++ '=' :: Text.octets value ++ ['\n'])
    return 0
  else
    let values := arguments.map fun name => bindings.get? (String.ofList name)
    values.forM fun value? => do
      if let some value := value? then write 1 (Text.octets value ++ ['\n'])
    return statusOf (values.all Option.isSome)

/-- Writes what the system is called. -/
def uname : Utility := fun arguments => do
  let name := match arguments with
    | [['-', 'm']] => "x86_64"
    | [['-', 'o']] => "GNU/Linux"
    | _ => "Linux"
  write 1 (name.toList ++ ['\n'])
  return 0

/-- Writes the paths of the programs that names stand for. -/
def which : Utility := fun arguments => do
  let files ← files
  let directory := (← process).directory
  let searchPath := Executable.searchPathOf (← exports)
  let found := arguments.map fun name =>
    (Executable.candidates searchPath (path name)).find? (Executable.isAt files directory)
  found.forM fun path? => do
    if let some path := path? then write 1 (Text.octets path ++ ['\n'])
  return statusOf (found.all Option.isSome)

/-! ## Time -/

/-- Whether a text is a number of seconds, minutes, hours or days. -/
def isDuration (text : List Char) : Bool :=
  let digits := match text.getLast? with
    | some 's' | some 'm' | some 'h' | some 'd' => text.dropLast
    | _ => text
  digits.head? != some '-' && (Fixed.ofText? digits).isSome

/-- Checks for how long to wait, and does not wait. -/
def sleep : Utility :=
  withOptions "sleep" 1 {} fun arguments => do
    let arguments := arguments.operands
    if arguments.isEmpty then return ← misused "sleep" 1 "missing operand".toList
    if arguments.any isInfinity then
      throw .endless
    let wrong := arguments.filter fun argument => !isDuration argument
    if wrong.isEmpty then
      return 0
    else
      wrong.forM fun argument =>
        object "sleep" ("invalid time interval ".toList ++ inQuotes argument)
      say 2 "Try 'sleep --help' for more information.\n"
      return 1

/-! ## Items -/

/-- The options of `xargs`. -/
def itemOptions : Options where
  flags := ['0', 'r', 't', 'x']
  valued := ['n', 'I', 'd', 'P', 'L', 's']
  first := true
  names := [("null", '0'), ("no-run-if-empty", 'r'), ("max-args", 'n'), ("verbose", 't'),
    ("delimiter", 'd'), ("max-procs", 'P')]

/-- The character that ends items, if one is given. -/
def itemEnd? (arguments : Arguments) : Option Char :=
  if arguments.has '0' then some '\x00'
  else (arguments.value? 'd').bind fun text =>
    ((unescaped text.length text).map (·.1)).head?

/-- The calls that `xargs` is to make for a text. -/
def callsFor (arguments : Arguments) (text : List Char) : Except Char (List (List (List Char))) :=
  let replaced := arguments.value? 'I'
  let items : Except Char (List (List Char)) := match itemEnd? arguments with
    | some mark => .ok (itemsEndedBy mark text)
    | none => itemsOf replaced.isSome text
  let call := if arguments.operands.isEmpty then ["echo".toList] else arguments.operands
  let size := (arguments.value? 'n').bind Filter.number?
  let use : ItemUse := { call, replaced, size, needsItems := arguments.has 'r' }
  items.map use.calls

/-! ## All of them -/

/-- Programs that are looked for. -/
def program? : String → Option Utility
  | "basename" => some basename
  | "cat" => some cat
  | "chmod" => some chmod
  | "cmp" => some cmp
  | "cp" => some cp
  | "cut" => some cut
  | "dd" => some dd
  | "diff" => some diff
  | "dirname" => some dirname
  | "echo" => some echoArguments
  | "egrep" => some (grep .extended)
  | "expand" => some expand
  | "expr" => some expr
  | "false" => some (idle 1)
  | "fgrep" => some (grep .fixed)
  | "fold" => some fold
  | "grep" => some (grep .basic)
  | "head" => some head
  | "ln" => some ln
  | "ls" => some ls
  | "mkdir" => some mkdir
  | "mv" => some mv
  | "nl" => some nl
  | "od" => some od
  | "paste" => some paste
  | "printenv" => some printenv
  | "printf" => some printByFormat
  | "pwd" => some (pwd true)
  | "readlink" => some readlink
  | "realpath" => some realpath
  | "rev" => some rev
  | "rm" => some rm
  | "rmdir" => some rmdir
  | "sed" => some sed
  | "seq" => some seq
  | "sleep" => some sleep
  | "sort" => some sort
  | "stat" => some stat
  | "true" => some (idle 0)
  | "tac" => some tac
  | "tail" => some tail
  | "tee" => some tee
  | "test" => some test
  | "[" => some bracket
  | "touch" => some touch
  | "tr" => some tr
  | "uname" => some uname
  | "uniq" => some uniq
  | "wc" => some wc
  | "which" => some which
  | "yes" => some yes
  | _ => none

/-- The status of a program that could not write what it had to write. -/
def lostStatus (name : String) : Nat :=
  match name with
  | "sed" => 4
  | "egrep" | "fgrep" | "grep" | "ls" | "sort" => 2
  | _ => 1

end Utility
end TestCoverage.Shell
