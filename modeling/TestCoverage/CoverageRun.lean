/-
  TestCoverage.CoverageRun

  One coverage run: find the compiler's directory and the target directory, build the
  tests, and collect the coverage of each test executable.
-/
import TestCoverage.Settings
import TestCoverage.Toolchain

namespace TestCoverage

/-- What a run that succeeds has done. -/
structure Summary where
  /-- the directory with the coverage output -/
  directory : Path
  /-- the test executables, in the order in which they were run -/
  files : List Path
deriving DecidableEq, Repr

namespace CoverageRun

/-- Collects each file in order.  The files that fail are the result if the run keeps going;
    otherwise the first failure ends it. -/
def collectAll (collect : Path → Routine Unit) (keepGoing : Bool) : List Path → Routine (List Path)
  | [] => return []
  | file :: files => do
    match ← Routine.attempt (collect file) with
    | .ok () => collectAll collect keepGoing files
    | .error failure =>
      if keepGoing then
        let others ← collectAll collect keepGoing files
        return file :: others
      else throw failure

/-- One run.  `prior` is the library path of the process, and `arguments` are passed on to
    the build. -/
def run (settings : Settings) (prior : Option Bytes) (arguments : List Bytes) :
    Routine Summary := do
  let tools := settings.tools
  let coverage := settings.coverage
  let sysroot ← Toolchain.sysroot tools.rustc
  let environment := Environment.instrumented coverage.rustflags sysroot prior
  let workspace ← Toolchain.workspace tools.cargo
  let directory ← Routine.ofExcept .workspace (workspace.coverageDirectory coverage.outputSubdir)
  Routine.note s!"[dbg] kcov_out = {Utf8.display directory}"
  let files ← Toolchain.testFiles tools.cargo arguments environment
  let collect (file : Path) : Routine Unit :=
    Toolchain.collect tools.kcov coverage.excludePattern directory file environment
  let failed ← collectAll collect coverage.keepGoing files
  if failed.isEmpty then return ⟨directory, files⟩
  else throw (.coverage failed files.length)

end CoverageRun
end TestCoverage
