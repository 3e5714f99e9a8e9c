/-
  TestCoverage.Main

  The program as it is started by its user.  It reads the settings and the scripts that
  the settings name, runs them in a sealed world, and keeps the files that they leave.
-/
import TestCoverage.CommandLine
import TestCoverage.Sandbox

namespace TestCoverage.Main

/-- The texts in front of zero bytes. -/
def zeroEnded (bytes : Bytes) : List Bytes :=
  (Text.pieces 0 bytes).dropLast

/-- The variables that a block of assignments lists. -/
def variablesOf (block : Bytes) : VariableBlock :=
  (zeroEnded block).map fun entry =>
    (entry.takeWhile (· ≠ 0x3D), (entry.dropWhile (· ≠ 0x3D)).drop 1)

/-- The fields of the lines of a file. -/
def fieldsOf (separator : UInt8) (contents : Bytes) : List (List Bytes) :=
  (Text.pieces 0x0A contents).map (Text.pieces separator)

/-- The number of the user, as the status of a process tells it. -/
def userOf? (status : Bytes) : Option Bytes := do
  let row ← (fieldsOf 0x09 status).find? fun fields => fields.head? = some (Utf8.ofString "Uid:")
  row[1]?

/-- The home directory that the table of accounts has for a user. -/
def homeOf? (accounts : Bytes) (user : Bytes) : Option Path := do
  let row ← (fieldsOf 0x3A accounts).find? fun fields => fields[2]? = some user
  row[5]?

/-- The programs that settings name; none if they cannot be used. -/
def programsOf : Except SettingsError Settings → List Bytes
  | .ok settings =>
    [settings.tools.cargo, settings.tools.rustc, settings.tools.kcov].map Utf8.ofString
  | .error _ => []

/-- The contents of those of the paths that can be read. -/
def contentsOf (paths : List Path) : IO (List (Path × Bytes)) :=
  paths.filterMapM fun path => do
    try
      return some (path, (← IO.FS.readBinFile (Utf8.display path)).toList)
    catch _ => return none

/-- The number of the error that a directory cannot be read like a file. -/
def isDirectoryError : UInt32 := 21

/-- What a path leads to. -/
def lookAt (path : Path) : IO Sight := do
  try
    return .file (← IO.FS.readBinFile (Utf8.display path)).toList
  catch error =>
    match error with
    | .inappropriateType _ code _ =>
      return if code = isDirectoryError then .other else .nothing
    | _ => return .nothing

/-- The contents of a file; nothing if it cannot be read. -/
def read (path : String) : IO Bytes := do
  try
    return (← IO.FS.readBinFile path).toList
  catch _ => return []

/-- Everything that can be read from a stream. -/
partial def readAll (stream : IO.FS.Stream) (before : ByteArray) : IO ByteArray := do
  let bytes ← stream.read 65536
  if bytes.isEmpty then return before else readAll stream (before ++ bytes)

/-- Keeps the files that are new or have changed. -/
def keep (before after : Files) : IO Unit :=
  after.nodes.forM fun (location, node) =>
    match node with
    | .file contents _ => do
      if before.node? location ≠ some node then
        let path := Path.separator :: [Path.separator].intercalate location
        IO.FS.writeBinFile (Utf8.display path) ⟨contents.toArray⟩
    | _ => return

end TestCoverage.Main

open TestCoverage TestCoverage.Main in
/-- Runs the program. -/
def main : IO UInt32 := do
  let bindings := variablesOf (← IO.FS.readBinFile "/proc/self/environ").toList
  let arguments := (zeroEnded (← IO.FS.readBinFile "/proc/self/cmdline").toList).drop 1
  let directory := (bindings.get? (Utf8.ofString "PWD")).getD [Path.separator]
  let accountHome := (userOf? (← read "/proc/self/status")).bind (homeOf? (← read "/etc/passwd"))
  let blank : Surroundings := { directory, bindings, look := fun _ => .nothing, accountHome }
  let documents := Settings.projectFile directory :: (Settings.userFile? blank).toList
  let substitutes := documents.flatMap fun path =>
    (Settings.Layer.substitutes path).map Prod.fst
  let sights ← (documents ++ substitutes).mapM fun path =>
    return (path, ← lookAt path)
  let surroundings := { blank with look := fun path => (sights.lookup path).getD .nothing }
  let programs := programsOf (Settings.load surroundings (some directory))
  let searchPath := Executable.searchPathOf bindings.named
  let scripts ← contentsOf
    ((programs.flatMap (Executable.candidates searchPath)).map (Path.join directory))
  let scripts := scripts.filter fun (_, contents) => (Executable.interpreter? contents).isSome
  let addScript (files : Files) (script : Path × Bytes) : Files :=
    files.put (Path.parts script.1) (.file script.2 Rights.ofProgram)
  let files := scripts.foldl addScript
    (Sandbox.system.put (Path.parts directory) (.directory Rights.ofProgram))
  let input ← readAll (← IO.getStdin) .empty
  let sandbox : Sandbox :=
    { files, bindings := bindings.named, directory := Path.parts directory, input := input.toList }
  let (result, sandbox) := CommandLine.run surroundings Sandbox.host arguments sandbox
  (← IO.getStdout).write ⟨result.console.output.toArray⟩
  (← IO.getStderr).write ⟨result.console.errors.toArray⟩
  keep files sandbox.files
  return result.code.toUInt32
