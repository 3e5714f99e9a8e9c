/-
  TestCoverage.Files.Executable

  How the name of a program leads to something that can be run.

  A name with a separator is a path.  Any other name is looked for in the directories of
  the search path: what is not there is passed over, what may not be run is passed over
  but remembered.  A script is run by the program that its first line names.
-/
import TestCoverage.Call
import TestCoverage.Files

namespace TestCoverage

/-- The error with which a program is not started. -/
def FileError.toStartError : FileError → StartError
  | .notFound => .notFound
  | .notADirectory => .notADirectory
  | .permissionDenied => .permissionDenied
  | .nameTooLong => .nameTooLong
  | .tooManyLinks => .tooManyLevels

/-- A built-in program and what it is called with. -/
structure Executable where
  program : String
  /-- the name under which it is called -/
  name : Bytes
  arguments : List Bytes
deriving DecidableEq, Repr

namespace Executable

/-- The first bytes of a script. -/
def mark : Bytes := Utf8.ofString "#!"

/-- The byte is white space inside a line. -/
def isSpace (b : UInt8) : Bool :=
  b == 0x20 || b == 0x09

/-- The byte stands behind a word. -/
def endsWord (b : UInt8) : Bool :=
  isSpace b || b == 0

/-- How much of a file is looked at to find the program that runs it. -/
def headSize : Nat := 256

/-- The first line of a script, behind the mark and without white space at its end.  The head
    of a short file is filled up with zero bytes.  A line that is longer than the head counts
    as far as it is there, if it has a whole word. -/
def firstLine? (contents : Bytes) : Option Bytes :=
  let shown := contents.take headSize
  let head := (shown ++ List.replicate (headSize - shown.length) 0).drop mark.length
  let trimmed (line : Bytes) : Bytes := (line.reverse.dropWhile isSpace).reverse
  if head.contains 0x0A then some (trimmed (head.takeWhile (· ≠ 0x0A)))
  else if (head.dropWhile isSpace).any endsWord then some (trimmed head.dropLast)
  else none

/-- The program that a script names for itself, and at most one argument for it: a word, and
    what stands behind it.  Both end at a zero byte. -/
def interpreter? (contents : Bytes) : Option (Path × List Bytes) := do
  let line ← if mark.isPrefixOf contents then firstLine? contents else none
  let line := line.dropWhile isSpace
  let path := line.takeWhile (!endsWord ·)
  let behind := line.dropWhile (!endsWord ·)
  let argument := behind.dropWhile isSpace
  if line.isEmpty then none
  else if behind.head? = some 0 ∨ argument.isEmpty then some (path, [])
  else some (path, [argument.takeWhile (· ≠ 0)])

/-- A path leads to something that may be run. -/
def isAt (files : Files) (directory : Location) (path : Path) : Bool :=
  match files.find directory path with
  | .ok (_, .program _) => true
  | .ok (_, .file _ rights) => rights.allowRunning
  | _ => false

/-- How long an argument must not be. -/
def maxArgument : Nat := 131072

/-- What a path is when it is run under a name.  Scripts may name scripts, up to the given
    depth.  A script that names nothing may not be run. -/
def ofPath (files : Files) (directory : Location) : Nat → Path → Bytes → List Bytes →
    Except StartError Executable
  | 0, _, _, _ => .error .tooManyLevels
  | depth + 1, path, name, arguments =>
    match files.find directory path with
    | .error error => .error error.toStartError
    | .ok (_, node) =>
      if ¬ isAt files directory path then .error .permissionDenied
      else if arguments.any (maxArgument ≤ ·.length) then .error .argumentsTooLong
      else match node with
      | .program program => .ok ⟨program, name, arguments⟩
      | .file contents _ =>
        match interpreter? contents with
        | none => .error .notExecutableFormat
        | some ([], _) => .error .permissionDenied
        | some (interpreter, argument) =>
          ofPath files directory depth interpreter interpreter (argument ++ path :: arguments)
      | _ => .error .permissionDenied

/-- How many programs may stand in each other's place: scripts, and the one that runs the
    last of them. -/
def maxDepth : Nat := 6

/-- The paths that a name may stand for, in the order in which they are tried. -/
def candidates (searchPath : Bytes) (name : Bytes) : List Path :=
  if name.isEmpty then []
  else if name.contains Path.separator then [name]
  else (Text.pieces Environment.listSeparator searchPath).map (Path.join · name)

/-- The first of some paths that can be run. -/
def firstOf (files : Files) (directory : Location) (name : Bytes) (arguments : List Bytes) :
    Bool → List Path → Except StartError Executable
  | denied, [] => .error (if denied then .permissionDenied else .notFound)
  | denied, path :: paths =>
    match ofPath files directory maxDepth path name arguments with
    | .ok executable => .ok executable
    | .error .notFound | .error .notADirectory =>
      firstOf files directory name arguments denied paths
    | .error .permissionDenied => firstOf files directory name arguments true paths
    | .error error => .error error

/-- What a name stands for, with the given search path. -/
def ofName (files : Files) (directory : Location) (searchPath : Bytes) (name : Bytes)
    (arguments : List Bytes) : Except StartError Executable :=
  if name.contains Path.separator then ofPath files directory maxDepth name name arguments
  else if Files.maxName < name.length then .error .nameTooLong
  else firstOf files directory name arguments false (candidates searchPath name)

/-- The search path of a process that has none. -/
def defaultSearchPath : Bytes := Utf8.ofString "/bin:/usr/bin"

/-- The search path that the variables of a process give. -/
def searchPathOf (bindings : Variables) : Bytes :=
  (bindings.get? "PATH").getD defaultSearchPath

example : interpreter? (Utf8.ofString "#! /bin/sh -e x \n") =
    some (Utf8.ofString "/bin/sh", [Utf8.ofString "-e x"]) := by decide +kernel
example : interpreter? (Utf8.ofString "#!/bin/sh") = some (Utf8.ofString "/bin/sh", []) := by
  decide +kernel
example : interpreter? (Utf8.ofString "#!/bin/sh ") = some (Utf8.ofString "/bin/sh", [[]]) := by
  decide +kernel
example : interpreter? (Utf8.ofString "#! \n/bin/sh") = none := by decide +kernel

end Executable
end TestCoverage
