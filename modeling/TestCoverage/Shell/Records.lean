/-
  TestCoverage.Shell.Records

  A program that runs programs that work on records, with its options and operands.
-/
import TestCoverage.Awk.Evaluation
import TestCoverage.Awk.Parser

namespace TestCoverage.Shell

namespace Utility

open Run

/-- What the options say. -/
structure RecordOptions where
  settings : List (List Char) := []
  /-- the files with the program -/
  files : List (List Char) := []
  operands : List (List Char) := []

/-- An option makes sense for nobody, or shows something about the program. -/
inductive RecordMisuse where
  | message (text : List Char)
  | version
  | usage

/-- What is shown about the version. -/
def recordVersion : String :=
  "mawk 1.3.4 20240123\n"

/-- What is shown about options. -/
def recordUsage : String :=
  "Usage: mawk [Options] [Program] [file ...]\n\nProgram:\n"
    ++ "    The -f option value is the name of a file containing program text.\n"
    ++ "    If no -f option is given, a \"--\" ends option processing; the following\n"
    ++ "    parameters are the program text.\n\nOptions:\n"
    ++ "    -f program-file  Program  text is read from file instead of from the\n"
    ++ "                     command-line.  Multiple -f options are accepted.\n"
    ++ "    -F value         sets the field separator, FS, to value.\n"
    ++ "    -v var=value     assigns value to program variable var.\n"
    ++ "    --               unambiguous end of options.\n\n"
    ++ "    Implementation-specific options are prefixed with \"-W\".  They can be\n"
    ++ "    abbreviated:\n\n"
    ++ "    -W version       show version information and exit.\n"
    ++ "    -W compat        pre-POSIX 2001.\n"
    ++ "    -W dump          show assembler-like listing of program and exit.\n"
    ++ "    -W help          show this message and exit.\n"
    ++ "    -W interactive   set unbuffered output, line-buffered input.\n"
    ++ "    -W exec file     use file as program as well as last option.\n"
    ++ "    -W posix         stricter POSIX checking.\n"
    ++ "    -W random=number set initial random seed.\n"
    ++ "    -W sprintf=number adjust size of sprintf buffer.\n"
    ++ "    -W usage         show this message and exit.\n"

/-- The text assigns something to a name. -/
def isSetting (text : List Char) : Bool :=
  match splitAssignment text with
  | (name, some _) => Reader.isName name.toList
  | _ => false

/-- The options with the value of the option of a letter. -/
def RecordOptions.withValue (options : RecordOptions) (letter : Char) (value : List Char) :
    Except RecordMisuse RecordOptions :=
  match letter with
  | 'F' => .ok { options with settings := options.settings ++ ["FS=".toList ++ value] }
  | 'f' => .ok { options with files := options.files ++ [value] }
  | _ =>
    if isSetting value then .ok { options with settings := options.settings ++ [value] }
    else .error (.message ("improper assignment: -v ".toList ++ value))

/-- Reads options.  The bound is more than the number of arguments. -/
def readRecordOptions : Nat → List (List Char) → RecordOptions → Except RecordMisuse RecordOptions
  | bound + 1, ('-' :: letter :: rest) :: arguments, options => do
    if letter = '-' ∧ rest.isEmpty then return { options with operands := arguments }
    else if letter = 'F' ∨ letter = 'f' ∨ letter = 'v' then
      match rest, arguments with
      | [], [] =>
        throw (.message ("option -".toList ++ letter :: " lacks argument".toList))
      | [], value :: arguments =>
        readRecordOptions bound arguments (← options.withValue letter value)
      | value, arguments =>
        readRecordOptions bound arguments (← options.withValue letter value)
    else
      let name := String.ofList (letter :: rest)
      if name = "-version" ∨ name = "Wversion" ∨ name = "Wv" then throw .version
      else if name = "-help" ∨ name = "-usage" ∨ name = "Whelp" ∨ name = "Wusage" then throw .usage
      else if letter = 'W' then
        match rest, arguments with
        | [], value :: arguments =>
          readRecordOptions bound (("-W".toList ++ value) :: arguments) options
        | _, _ => readRecordOptions bound arguments options
      else throw (.message ("not an option: -".toList ++ letter :: rest))
  | _, arguments, options => return { options with operands := arguments }

/-- The text of a program in files. -/
def programText (caller : List Char) : List (List Char) → Run (Option (List Char))
  | [] => return some []
  | file :: files => do
    match ← Awk.Act.fileText file with
    | .ok text =>
      let others ← programText caller files
      return others.map fun others => text.getD [] ++ ['\n'] ++ others
    | .error error =>
      write 2 (caller ++ ": cannot open \"".toList ++ file ++ "\" (".toList
        ++ (describe error).toList ++ [')', '\n'])
      return none

/-- The variables with which a program begins. -/
def firstBindings : Entries Awk.Binding :=
  let texts : List (String × List Char) := [
    ("FS", [' ']), ("OFS", [' ']), ("ORS", ['\n']), ("RS", ['\n']), ("SUBSEP", ['\x1c']),
    ("CONVFMT", "%.6g".toList), ("OFMT", "%.6g".toList), ("FILENAME", [])]
  texts.map (fun (name, text) => (name, .value (.text text)))
    ++ [("NR", .value (.ofInt 0)), ("FNR", .value (.ofInt 0)), ("RSTART", .value (.ofInt 0)),
      ("RLENGTH", .value (.ofInt (-1)))]

/-- A program at its beginning, with its operands and the variables that it is told about. -/
def firstMachine (program : Awk.Program) (caller : List Char) (operands : List (List Char))
    (told : Variables) : Awk.Machine :=
  let arguments := caller :: operands
  let numbered : Awk.Table := {
    values := arguments.zipIdx.map fun (text, i) =>
      (String.ofList (Nat.toDigits 10 i), .input text)
    integers := (List.range arguments.length).reverse.map fun (i : Nat) => (i : Int) }
  let environment : Awk.Table :=
    told.foldl (fun table (name, text) =>
      let key := Awk.Key.text (Text.octetsOf name)
      (table.lookFor true key).put key (.input (Text.octets text))) {}
  { program, caller
    bindings := firstBindings ++ [("ARGC", .value (.ofInt arguments.length))]
    tables := [("ARGV", numbered), ("ENVIRON", environment)] }

/-- Runs a program on the records of files. -/
def records (call : Awk.Call) (fuel : Nat) (caller : List Char) (told : Variables) :
    Utility := fun arguments => do
  let complain (message : List Char) : Run Nat := do
    write 2 (caller ++ ": ".toList ++ message ++ ['\n'])
    return 2
  match readRecordOptions (arguments.length + 1) arguments {} with
  | .error (.message text) => complain text
  | .error .version => do
    say 1 recordVersion
    return 0
  | .error .usage => do
    say 1 recordUsage
    return 0
  | .ok options => do
    let (text, operands) ← if options.files.isEmpty then
        match options.operands with
        | [] =>
          say 2 recordUsage
          return 0
        | text :: operands => pure (some text, operands)
      else pure (← programText caller options.files, options.operands)
    match text with
    | none => return 2
    | some text =>
      match Awk.Program.ofText text with
      | .error misprint =>
        let place := s!"line {misprint.line}: "
        complain (place.toList ++ misprint.message)
      | .ok program => do
        let machine := firstMachine program caller operands told
        let (result, _) ← (Awk.Act.runWhole call fuel options.settings).run.run machine
        match result with
        | .ok status => return status
        | .error _ => return 2

end Utility
end TestCoverage.Shell
