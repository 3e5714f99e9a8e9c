/-
  TestCoverage.Sandbox

  A sealed world in which programs can be run: files, variables, and a text to be read.
  The tools of a run are shell scripts there, so the world has a shell and the utilities that
  scripts call.
-/
import TestCoverage.Dialogue
import TestCoverage.Shell.Execution

namespace TestCoverage

/-- A sealed world. -/
structure Sandbox where
  files : Files
  bindings : Variables := []
  /-- the directory in which programs are run -/
  directory : Location := []
  /-- what is left to be read by programs that are not captured -/
  input : Bytes := []
deriving Repr

namespace Sandbox

/-! ## The programs that are there -/

/-- The names of the utilities. -/
def utilities : List String := [
  "[", "awk", "basename", "cat", "chmod", "cmp", "cp", "cut", "dd", "diff", "dirname", "echo",
  "egrep", "env", "expand", "expr", "false", "fgrep", "find", "fold", "grep", "head", "ln", "ls",
  "mawk", "mkdir", "mv", "nl", "od", "paste", "printenv", "printf", "pwd", "readlink", "realpath",
  "rev", "rm", "rmdir", "sed", "seq", "sh", "sleep", "sort", "stat", "tac", "tail", "tee", "test",
  "touch", "tr", "true", "uname", "uniq", "wc", "which", "xargs", "yes"]

/-- The parts of a path. -/
def place (path : String) : Location :=
  Path.parts (Utf8.ofString path)

/-- A directory of the system. -/
def emptyDirectory (path : String) : Location × Node :=
  (place path, .directory Rights.ofProgram)

/-- The files that are there before anything else: the utilities, the shell, and some files
    that cannot be run. -/
def system : Files where
  nodes :=
    utilities.map (fun name => (place s!"/usr/bin/{name}", .program name))
      ++ utilities.map (fun name => (place s!"/bin/{name}", .program name))
      ++ [(place "/bin/dash", .program "sh"), (place "/usr/bin/dash", .program "sh"),
        (place "/bin/bash", .program "sh"), (place "/usr/bin/bash", .program "sh"),
        (place "/etc/passwd", .file [] Rights.ofFile), (place "/dev/null", .device .null),
        (place "/dev/zero", .device (.endless 0x00)),
        (place "/dev/urandom", .device (.endless 0xFF)),
        (place "/dev/random", .device (.endless 0xFF)), (place "/dev/full", .device .full),
        (place "/dev/fd", .link (Utf8.ofString "/proc/self/fd"))]
      ++ (["stdin", "stdout", "stderr"].zipIdx.map fun (name, number) =>
        (place s!"/dev/{name}", .link (Utf8.ofString s!"/proc/self/fd/{number}")))
      ++ ((List.range 10).map fun number =>
        (place s!"/proc/self/fd/{number}", .device (.descriptor number)))
      ++ ["/tmp", "/root", "/home", "/usr/lib", "/usr/sbin", "/usr/local/bin",
        "/var", "/proc", "/sys"].map emptyDirectory

/-! ## Running programs -/

/-- How much a program may do before it is stopped. -/
def fuel : Nat := 1000000

/-- The command has a zero byte, with which nothing can be started. -/
def hasNul (command : Command) : Bool :=
  (Utf8.ofString command.program).contains 0
    || command.arguments.any (·.contains 0)
    || command.environment.bindings.any (·.2.contains 0)

/-- The exit code that an ending shows.  A program that is stopped has none. -/
def codeOf : Shell.Ending → Option Int
  | .exited status => some (status % 256 : Nat)
  | .killed _ | .endless => none

/-- The executable that a command names. -/
def executable (sandbox : Sandbox) (command : Command) : Except StartError Executable :=
  if hasNul command then .error .nulByte
  else
    Executable.ofName sandbox.files sandbox.directory
      (Executable.searchPathOf sandbox.bindings) (Utf8.ofString command.program)
      command.arguments

/-- The process from which programs are started: what they read, and where they write. -/
def starter (sandbox : Sandbox) (input : Bytes) : Shell.State where
  world := {
    files := sandbox.files
    inputs := [Text.octets input]
    outputs := [[], []] }
  process := {
    directory := sandbox.directory
    channels := [(0, .input 0 false), (1, .output 0), (2, .output 1)] }

/-- Runs a program.  A captured one has nothing to read; what the others leave unread is
    left for the next. -/
def host : Dialogue.Host Sandbox := fun call sandbox =>
  match executable sandbox call.command with
  | .error error => (.notStarted error, sandbox)
  | .ok executable =>
    let input := if call.purpose = .run then sandbox.input else []
    let bindings := (call.command.environment.applyTo sandbox.bindings).named
    let (result, state) :=
      (Shell.runProgram fuel executable bindings).run.run (starter sandbox input)
    let ending := match result with
      | .ok ending => ending
      | .error _ => .endless
    let written (index : Nat) : Bytes :=
      Text.ofOctets (state.world.outputs.getD index []).reverse
    let left := Text.ofOctets (state.world.inputs.getD 0 [])
    (.ended (codeOf ending) (written 0) (written 1),
      { sandbox with
        files := state.world.files
        input := if call.purpose = .run then left else sandbox.input })

end Sandbox
end TestCoverage
