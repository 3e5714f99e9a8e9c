/-
  TestCoverage.Call

  Calls of external programs: what is asked of a program, what becomes of it, and what
  the caller makes of that.
-/
import TestCoverage.Command

namespace TestCoverage

/-! ## Asking -/

/-- What is wanted of a program: its output as text, or only that it runs. -/
inductive Purpose where
  | capture
  | run
deriving DecidableEq, Repr

/-- A command and what it is called for. -/
structure Call where
  purpose : Purpose
  command : Command
deriving DecidableEq, Repr

/-! ## What becomes of a call -/

/-- Why a program is not started. -/
inductive StartError where
  | notFound
  | permissionDenied
  | notADirectory
  | nameTooLong
  | tooManyLevels
  | argumentsTooLong
  | notExecutableFormat
  | nulByte
  | other (text : String)
deriving DecidableEq, Repr

/-- The reason in words. -/
def StartError.message : StartError → String
  | .notFound => "No such file or directory (os error 2)"
  | .permissionDenied => "Permission denied (os error 13)"
  | .notADirectory => "Not a directory (os error 20)"
  | .nameTooLong => "File name too long (os error 36)"
  | .tooManyLevels => "Too many levels of symbolic links (os error 40)"
  | .argumentsTooLong => "Argument list too long (os error 7)"
  | .notExecutableFormat => "Exec format error (os error 8)"
  | .nulByte => "nul byte found in provided data"
  | .other text => text

/-- What a program does: it is not started, or it ends with a code (with none if a signal
    ends it) after it has written to its output and to its error output. -/
inductive Outcome where
  | notStarted (reason : StartError)
  | ended (code : Option Int) (output errors : Bytes)
deriving DecidableEq, Repr

/-- What the caller is told about a call. -/
inductive Response where
  | output (text : List Char)
  | status (code : Option Int)
  | notStarted (reason : StartError)
  | notText
deriving DecidableEq, Repr

/-- What the caller is told: first whether the program was started, then whether it
    succeeded, and last, if the output is wanted, whether it is text. -/
def Outcome.response (purpose : Purpose) : Outcome → Response
  | .notStarted reason => .notStarted reason
  | .ended code output _ =>
    if code = some 0 then
      match purpose with
      | .run => .output []
      | .capture =>
        match Utf8.decode? output with
        | some text => .output text
        | none => .notText
    else .status code

/-! ## Failures -/

/-- A call that did not give what was wanted. -/
inductive ToolError where
  | notStarted (program : String) (reason : StartError)
  | status (command : String) (code : Option Int)
  | notText (program : String)
  | noOutput (program : String)
deriving DecidableEq, Repr

/-- An exit code as it is displayed. -/
def describeCode : Option Int → String
  | some code => s!"Some({code})"
  | none => "None"

/-- The failure in words. -/
def ToolError.message : ToolError → String
  | .notStarted program reason => s!"Failed to spawn `{program}`: {reason.message}"
  | .status command code => s!"`{command}` exited with status {describeCode code}"
  | .notText program => s!"`{program}` produced non UTF-8 output"
  | .noOutput program => s!"`{program}` produced no output"

/-- The output of a command, or the failure that a response means for it. -/
def Response.answer (command : Command) : Response → Except ToolError (List Char)
  | .output text => .ok text
  | .status code => .error (.status command.render code)
  | .notStarted reason => .error (.notStarted command.program reason)
  | .notText => .error (.notText command.program)

end TestCoverage
