/-
  TestCoverage.Artifact.Stream

  The build tool's output: one message on each line that is not blank.
-/
import TestCoverage.Artifact
import TestCoverage.Text.Blank

namespace TestCoverage.Artifact

/-- A message that cannot be read, with its line, counted from one. -/
structure LineError where
  line : Nat
  error : Json.Error
deriving DecidableEq, Repr

/-- The message on a line, if the line is not blank. -/
def lineItem? (number : Nat) (line : List Char) : Option (Except LineError Artifact) :=
  match Text.trim line with
  | [] => none
  | message => some ((parse message).mapError (⟨number, ·⟩))

/-- The messages on lines that are numbered from `number` on. -/
def itemsFrom (number : Nat) : List (List Char) → List (Except LineError Artifact)
  | [] => []
  | line :: lines =>
    match lineItem? number line with
    | none => itemsFrom (number + 1) lines
    | some item => item :: itemsFrom (number + 1) lines

/-- Every message of the output, in order; a bad one does not end the list. -/
def items (output : List Char) : List (Except LineError Artifact) :=
  itemsFrom 1 (Text.pieces '\n' output)

/-- The first error among the items, or all artifacts. -/
def allArtifacts : List (Except LineError Artifact) → Except LineError (List Artifact)
  | [] => .ok []
  | .error error :: _ => .error error
  | .ok artifact :: rest => (allArtifacts rest).map (artifact :: ·)

/-- The files of every test artifact, in the order of the output. -/
def testFiles (output : List Char) : Except LineError (List Path) :=
  (allArtifacts (items output)).map fun artifacts =>
    (artifacts.filter isTest).flatMap (·.files)

end TestCoverage.Artifact
