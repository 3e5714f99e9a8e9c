/-
  TestCoverage.Failure

  Everything that can go wrong, with its causes and the report that the user sees.
-/
import TestCoverage.Artifact.Stream
import TestCoverage.Call
import TestCoverage.Settings.Error
import TestCoverage.Workspace

namespace TestCoverage

/-- The error in words. -/
def Artifact.LineError.message (error : Artifact.LineError) : String :=
  s!"Malformed artifact message on line {error.line}: {error.error.message}"

/-- What went wrong. -/
inductive Failure where
  | settings (error : SettingsError)
  | tool (error : ToolError)
  | artifact (error : Artifact.LineError)
  | workspace (error : WorkspaceError)
  | coverage (failed : List Path) (total : Nat)
deriving DecidableEq, Repr

namespace Failure

/-- The failure in words. -/
def message : Failure → String
  | .settings error => s!"Configuration error: {error.message}"
  | .tool error => s!"Tool error: {error.message}"
  | .artifact error => s!"Artifact error: {error.message}"
  | .workspace error => s!"Metadata error: {error.message}"
  | .coverage failed total => s!"Coverage failed for {failed.length} of {total} test binaries"

/-- The causes of the failure in words, each the cause of the one before. -/
def causes : Failure → List String
  | .settings error => [error.message]
  | .tool error =>
    match error with
    | .notStarted _ reason => [error.message, reason.message]
    | _ => [error.message]
  | .artifact error => [error.message, error.error.message]
  | .workspace error =>
    match error with
    | .malformed cause => [error.message, cause.message]
    | _ => [error.message]
  | .coverage .. => []

end Failure

/-! ## Reports -/

namespace Report

/-- The text with `margin` before every line but the first. -/
def hanging (margin text : List Char) : List Char :=
  ('\n' :: margin).intercalate (Text.pieces '\n' text)

/-- A cause with its number, right-aligned, when there are several. -/
def cause (number : Option Nat) (text : String) : List Char :=
  match number with
  | none => "\n    ".toList ++ hanging "    ".toList text.toList
  | some n =>
    let digits := Nat.toDigits 10 n
    '\n' :: List.replicate (5 - digits.length) ' ' ++ digits ++ [':', ' ']
      ++ hanging "       ".toList text.toList

/-- The causes, numbered from zero if there are several. -/
def causes : List String → List Char
  | [] => []
  | [only] => cause none only
  | several => (several.zipIdx.map fun (text, n) => cause (some n) text).flatten

/-- A message and its causes, as the last thing that the user sees. -/
def render (message : String) (because : List String) : String :=
  let tail := if because.isEmpty then [] else "\n\nCaused by:".toList ++ causes because
  s!"Error: {message}{String.ofList tail}"

example : render "no" [] = "Error: no" := by decide
example : render "no" ["a\nb"] = "Error: no\n\nCaused by:\n    a\n    b" := by decide +kernel
example : render "no" ["a", "b"] = "Error: no\n\nCaused by:\n    0: a\n    1: b" := by
  decide +kernel

end Report
end TestCoverage
