/-
  TestCoverage.Shell.Descriptor

  What descriptors are joined to by redirections.
-/
import TestCoverage.Shell.State
import TestCoverage.Shell.Syntax
import TestCoverage.Shell.Utility

namespace TestCoverage.Shell

namespace Run

/-- Why a file cannot be opened, which is to be made if it is not there. -/
def openingMistake (makes : Bool) : FileError → String
  | .notFound | .notADirectory => if makes then "Directory nonexistent" else "No such file"
  | error => Utility.describe error

/-- Joins a descriptor to what another is joined to.  The reason is told if that is not open. -/
def joinTo (descriptor source : Nat) (reason : String) : Run (Option String) := do
  match ← channel? source with
  | some channel =>
    join descriptor channel
    return none
  | none => return some reason

/-- Opens a file for reading at a descriptor, and makes it before if it is to be made. -/
def openInput (makes : Bool) (descriptor : Nat) (path : List Char) : Run (Option String) := do
  match (← files).locate (← process).directory (Text.ofOctets path) with
  | .error error => return some (openingMistake makes error)
  | .ok location =>
    match (← files).node? location with
    | some (.file contents _) => join descriptor (← newInput true (Text.octets contents))
    | some (.device (.descriptor source)) =>
      return ← joinTo descriptor source (openingMistake makes .notFound)
    | some (.device device) => join descriptor (.device device)
    | some (.directory _) =>
      if makes then return some "Is a directory"
      join descriptor (.device .null)
    | some _ => join descriptor (.device .null)
    | none =>
      if ¬ makes then return some (openingMistake false .notFound)
      setContents location []
      join descriptor (← newInput true [])
    return none

/-- Opens a file for writing at a descriptor, which begins at its end if `keep` is set.  A file
    that must be a new one is not there yet. -/
def openOutput (keep isNew : Bool) (descriptor : Nat) (path : List Char) :
    Run (Option String) := do
  match (← files).locate (← process).directory (Text.ofOctets path) with
  | .error error => return some (openingMistake true error)
  | .ok location =>
    match (← files).node? location with
    | some (.directory _) => return some "Is a directory"
    | some (.device (.descriptor source)) =>
      if let some (.file location) ← channel? source then
        if ¬ keep then setContents location []
      return ← joinTo descriptor source (openingMistake true .notFound)
    | some (.device device) => join descriptor (.device device)
    | some (.program _) | some (.link _) => return some "Permission denied"
    | some (.file contents _) =>
      if isNew then return some "File exists"
      setContents location (if keep then contents else [])
      join descriptor (.file location)
    | none =>
      setContents location []
      join descriptor (.file location)
    return none

/-- Joins a descriptor to what another is joined to, or shuts it. -/
def copyDescriptor (descriptor : Nat) (target : List Char) : Run (Option String) := do
  match target with
  | ['-'] =>
    shut descriptor
    return none
  | [digit] =>
    if !digit.isDigit then wrongDescriptor
    else joinTo descriptor (digit.toNat - '0'.toNat) "Bad file descriptor"
  | _ => wrongDescriptor
where
  wrongDescriptor : Run (Option String) := do
    complainAt (← process).lineRead "Syntax error: Bad fd number".toList
    throw (.failed 2)

/-- Redirects a descriptor.  The reason is told if that cannot be done. -/
def redirect (descriptor : Nat) (kind : Redirection) (target : List Char) :
    Run (Option String) := do
  match kind with
  | .document =>
    join descriptor (← newInput false target)
    return none
  | .copy => copyDescriptor descriptor target
  | .read => openInput false descriptor target
  | .update => openInput true descriptor target
  | .write => openOutput false ((← process).has 'C') descriptor target
  | .force => openOutput false false descriptor target
  | .append => openOutput true false descriptor target

end Run
end TestCoverage.Shell
