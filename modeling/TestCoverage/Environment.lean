/-
  TestCoverage.Environment

  Variables that are set for a child process on top of those it inherits.  What a program
  sets has names that are text; what a process inherits need not.
-/
import TestCoverage.Entries
import TestCoverage.Path

namespace TestCoverage

/-- Variables by names that are text. -/
abbrev Variables := Entries Bytes

/-- All variables of a process, by the bytes of their names. -/
abbrev VariableBlock := Entries Bytes Bytes

/-- The variables with the bytes of their names. -/
def Variables.block (values : Variables) : VariableBlock :=
  values.map fun (name, value) => (Utf8.ofString name, value)

/-- The variables of which the names are text. -/
def VariableBlock.named (block : VariableBlock) : Variables :=
  block.filterMap fun (name, value) =>
    (Utf8.decode? name).map fun name => (String.ofList name, value)

instance : Coe Variables VariableBlock := ⟨Variables.block⟩

/-- What is set for a child. -/
structure Environment where
  bindings : Variables := []
deriving DecidableEq, Repr

namespace Environment

/-- The variable with the compiler's flags. -/
def compilerFlags : String := "RUSTFLAGS"

/-- The variable with the directories in which libraries are looked for. -/
def libraryPath : String := "LD_LIBRARY_PATH"

/-- The byte between the directories of a search path. -/
def listSeparator : UInt8 := 0x3A

/-- The environment of an instrumented build: the compiler's flags, and the compiler's own
    libraries behind those that were searched before. -/
def instrumented (flags : String) (sysroot : Path) (prior : Option Bytes) : Environment where
  bindings := [
    (compilerFlags, Utf8.ofString flags),
    (libraryPath, prior.getD [] ++ listSeparator :: sysroot.join (Utf8.ofString "lib"))]

/-- The value that is set for a variable. -/
def get? (environment : Environment) (name : String) : Option Bytes :=
  environment.bindings.get? name

/-- The variables of a child that inherits the given ones. -/
def applyTo (environment : Environment) (inherited : VariableBlock) : VariableBlock :=
  inherited.setAll environment.bindings.block

end Environment
end TestCoverage
