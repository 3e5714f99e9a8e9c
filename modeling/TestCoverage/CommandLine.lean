/-
  TestCoverage.CommandLine

  The whole program: settings, one run, and the report of what went wrong.
-/
import TestCoverage.CoverageRun
import TestCoverage.Settings.Layers

namespace TestCoverage.CommandLine

/-- What the program leaves behind: its exit code and what it has written. -/
structure Exit where
  code : Nat
  console : Dialogue.Console
deriving DecidableEq, Repr

/-- The end of a program that could not do its work.  The stack that the report shows behind the
    causes when the variables for it are set (`RUST_BACKTRACE`, `RUST_LIB_BACKTRACE`) is left
    out. -/
def failed (console : Dialogue.Console) (message : String) (causes : List String) : Exit where
  code := 1
  console := console.append (.line (Report.render message causes))

/-- The end of a program whose settings cannot be used.  At a variable that is no text it stops
    on the spot; what the runtime then writes instead of a report is left out. -/
def refused : SettingsError → Exit
  | .notText _ => { code := 101, console := {} }
  | error => failed {} "Failed to load configuration" [error.message]

/-- Runs the program on a host.  Its arguments are for the build; no program is called if the
    settings cannot be used. -/
def run {σ : Type} (surroundings : Surroundings) (host : Dialogue.Host σ)
    (arguments : List Bytes) (state : σ) : Exit × σ :=
  match Settings.load surroundings (some surroundings.directory) with
  | .error error => (refused error, state)
  | .ok settings =>
    let prior := surroundings.bindings.get? (Utf8.ofString Environment.libraryPath)
    let routine := CoverageRun.run settings prior arguments
    let (result, console, state) := Dialogue.perform host routine.run state
    match result with
    | .ok _ => (⟨0, console⟩, state)
    | .error failure => (failed console failure.message failure.causes, state)

end TestCoverage.CommandLine
