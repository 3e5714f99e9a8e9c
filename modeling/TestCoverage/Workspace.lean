/-
  TestCoverage.Workspace

  What the build tool says about the workspace: the directory it builds into.
-/
import TestCoverage.Artifact

namespace TestCoverage

/-- A workspace, as far as it is known. -/
structure Workspace where
  targetField : Option Path := none
deriving DecidableEq, Repr

/-- Why no directory is known. -/
inductive WorkspaceError where
  | malformed (error : Json.Error)
  | missingTarget
  | invalidTarget (directory : Path)
deriving DecidableEq, Repr

namespace Workspace

/-- How a workspace is written. -/
def shape : Json.Shape Workspace where
  name := "Metadata"
  fields := [.of "target_directory" (Json.readOption Artifact.readPath)
    fun targetField workspace => { workspace with targetField }]
  default := {}

/-- Reads the description of a workspace. -/
def parse (document : List Char) : Except WorkspaceError Workspace :=
  (Json.readDocument shape.read document).mapError .malformed

/-- The directory that the build writes to. -/
def targetDirectory (workspace : Workspace) : Except WorkspaceError Path :=
  match workspace.targetField with
  | none => .error .missingTarget
  | some [] => .error (.invalidTarget [])
  | some directory => .ok directory

/-- The directory for coverage output, seen from the target directory. -/
def coverageDirectory (workspace : Workspace) (sub : String) : Except WorkspaceError Path :=
  workspace.targetDirectory.map (Path.join · (Utf8.ofString sub))

end Workspace

/-- The error in words. -/
def WorkspaceError.message : WorkspaceError → String
  | .malformed error => s!"Malformed metadata: {error.message}"
  | .missingTarget => "Metadata has no target_directory"
  | .invalidTarget directory =>
    s!"Target directory does not look like a path: {Utf8.display directory}"

end TestCoverage
