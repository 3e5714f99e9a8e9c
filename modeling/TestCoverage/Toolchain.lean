/-
  TestCoverage.Toolchain

  The four things that are asked of external programs: where the compiler's files are,
  where the build writes to, which test executables there are, and the coverage of one.
-/
import TestCoverage.Dialogue
import TestCoverage.Failure

namespace TestCoverage

/-- A computation that calls programs and may fail. -/
abbrev Routine (α : Type) := ExceptT Failure Dialogue α

namespace Routine

/-- The output of a command. -/
def capture (command : Command) : Routine (List Char) :=
  ExceptT.mk <| (Dialogue.call .capture command).bind fun answer =>
    .done (answer.mapError .tool)

/-- A command run for its effect. -/
def execute (command : Command) : Routine Unit :=
  ExceptT.mk <| (Dialogue.call .run command).bind fun answer =>
    .done ((answer.map fun _ => ()).mapError .tool)

/-- A line for the user. -/
def note (line : String) : Routine Unit :=
  ExceptT.mk (.note line (.done (.ok ())))

/-- A result that may be an error of a part. -/
def ofExcept {ε α : Type} (wrap : ε → Failure) (result : Except ε α) : Routine α :=
  ExceptT.mk (.done (result.mapError wrap))

/-- A computation whose failure is part of its result. -/
def attempt {α : Type} (routine : Routine α) : Routine (Except Failure α) :=
  ExceptT.mk <| (routine.run : Dialogue (Except Failure α)).bind fun result =>
    .done (.ok result)

/-- Plays the calls of a computation with the responses in order. -/
def play {α : Type} (routine : Routine α) (responses : List Response) :
    Dialogue.Played (Except Failure α) :=
  Dialogue.play routine.run responses

end Routine

namespace Toolchain

/-- The command that asks for the compiler's directory. -/
def sysrootCommand (rustc : String) : Command where
  program := rustc
  arguments := ["--print", "sysroot"].map Utf8.ofString

/-- The compiler's directory: its answer without the white space around it. -/
def sysroot (rustc : String) : Routine Path := do
  let answer ← Routine.capture (sysrootCommand rustc)
  match Text.trim answer with
  | [] => throw (.tool (.noOutput rustc))
  | directory => return Utf8.encode directory

/-- The command that asks for the workspace. -/
def workspaceCommand (cargo : String) : Command where
  program := cargo
  arguments := ["metadata", "--format-version=1"].map Utf8.ofString

/-- The workspace that the build tool describes. -/
def workspace (cargo : String) : Routine Workspace := do
  let answer ← Routine.capture (workspaceCommand cargo)
  Routine.ofExcept .workspace (Workspace.parse answer)

/-- The command that builds the tests without running them. -/
def buildCommand (cargo : String) (arguments : List Bytes) (environment : Environment) :
    Command where
  program := cargo
  arguments := ["test", "--no-run", "--message-format=json"].map Utf8.ofString ++ arguments
  environment := environment

/-- The test executables that the build makes. -/
def testFiles (cargo : String) (arguments : List Bytes) (environment : Environment) :
    Routine (List Path) := do
  let answer ← Routine.capture (buildCommand cargo arguments environment)
  Routine.ofExcept .artifact (Artifact.testFiles answer)

/-- The command that collects the coverage of a test executable. -/
def collectCommand (kcov excludePattern : String) (directory file : Path)
    (environment : Environment) : Command where
  program := kcov
  arguments := [Utf8.ofString ("--exclude-pattern=" ++ excludePattern), directory, file]
  environment := environment

/-- Collects the coverage of a test executable. -/
def collect (kcov excludePattern : String) (directory file : Path)
    (environment : Environment) : Routine Unit :=
  Routine.execute (collectCommand kcov excludePattern directory file environment)

end Toolchain
end TestCoverage
