/-
  TestCoverage.Shell.State

  The state of a running script: the world that all processes share, and what a process
  has for itself.

  Everything that is read and written goes through channels.  A channel is for reading or
  for writing, and a process knows channels by the numbers of its descriptors.
-/
import TestCoverage.Files.Executable
import TestCoverage.Shell.Reader
import TestCoverage.Text.Octets

namespace TestCoverage.Shell

/-! ## The world -/

/-- What a descriptor is joined to.  What has been read too far from a file, but not from
    anything else, can be read again. -/
inductive Channel where
  | device (device : Device)
  | input (index : Nat) (isFile : Bool)
  | output (index : Nat)
  | file (location : Location)
deriving DecidableEq, Repr

/-- How a program ends: with a status, by a signal, or not soon. -/
inductive Ending where
  | exited (status : Nat)
  | killed (signal : Nat)
  | endless
deriving DecidableEq, Repr

/-! ## Processes -/

/-- A variable: its value, if it is set, whether other programs are told about it, and whether
    it keeps its value for good. -/
structure Variable where
  value : Option (List Char)
  exported : Bool := false
  fixed : Bool := false
deriving DecidableEq, Repr

/-- What a process has for itself. -/
structure Process where
  name : List Char := []
  arguments : List (List Char) := []
  number : Nat := 0
  bindings : Entries Variable := []
  functions : Entries Command := []
  aliases : Entries (List Char) := []
  /-- what is done when a signal comes, or at the end -/
  traps : Entries (List Char) := []
  directory : Location := []
  channels : List (Nat × Channel) := []
  /-- the letters of the options that are on -/
  options : List Char := []
  /-- which rights new files do not get -/
  mask : Nat := 18
  /-- how the last command ended -/
  status : Nat := 0
  /-- how the last command whose output was used in a word ended -/
  outputStatus : Option Nat := none
  /-- the number of the process that was last started without waiting for it -/
  lastJob : Option Nat := none
  /-- how many loops are being carried out -/
  loops : Nat := 0
  /-- the line of the command that is carried out -/
  line : Nat := 1
  /-- the line up to which the script has been read -/
  lineRead : Nat := 1
  /-- the command of the language that is carried out, for messages -/
  caller : List Char := []
  /-- a failure decides something and does not end the script -/
  isCondition : Bool := false
  /-- nothing comes after the command, so that a program can take the place of the process -/
  isLast : Bool := false
  /-- what the local variables of the function that runs had been before -/
  saved : Option (List (String × Option Variable)) := none
  /-- how much of an argument with options has been read -/
  optionPlace : Nat := 0
  /-- why something could not be written -/
  lost : Option String := none
  /-- the signal that has ended the program that was called last -/
  fallen : Option Nat := none

/-- The option of a letter is on. -/
def Process.has (process : Process) (letter : Char) : Bool :=
  process.options.contains letter

/-! ## The world -/

/-- A command that runs by the side of others. -/
structure Job where
  number : Nat
  process : Process
  body : Command

/-- What processes share. -/
structure World where
  files : Files
  /-- what is left to be read from each channel -/
  inputs : List (List Char) := []
  /-- what has been written to each channel, the last character first -/
  outputs : List (List Char) := []
  /-- the number of the process that was started last -/
  lastProcess : Nat := 100
  /-- commands that have been started without waiting for them, and have not run yet -/
  jobs : List Job := []
  /-- how such commands have ended -/
  ended : List (Nat × Ending) := []

/-- The world and the process that runs. -/
structure State where
  world : World
  process : Process

/-- Why commands are not carried out to their end. -/
inductive Interrupt where
  | exit (status : Nat)
  /-- a mistake that ends a script -/
  | failed (status : Nat)
  | killed (signal : Nat)
  /-- ends so many loops -/
  | leave (loops : Nat)
  /-- ends so many loops less one, and goes on with the next round -/
  | again (loops : Nat)
  /-- ends a function -/
  | back (status : Nat)
  /-- goes on for too long -/
  | endless
deriving DecidableEq, Repr

/-- Something that a process does. -/
abbrev Run := ExceptT Interrupt (StateM State)

namespace Run

/-- The running process. -/
def process : Run Process :=
  return (← get).process

/-- Changes the running process. -/
def update (change : Process → Process) : Run Unit :=
  modify fun state => { state with process := change state.process }

/-- The files. -/
def files : Run Files :=
  return (← get).world.files

/-- Changes the files. -/
def updateFiles (change : Files → Files) : Run Unit :=
  modify fun state => { state with world.files := change state.world.files }

/-- What something does, with what interrupted it as a result. -/
def attempt {α : Type} (run : Run α) : Run (Except Interrupt α) :=
  ExceptT.mk do return .ok (← run.run)

/-- Does something in a copy of the process, outside its loops.  What happens to the world
    stays. -/
def inCopy {α : Type} (run : Run α) : Run (Except Interrupt α) := do
  let process ← process
  update fun process => { process with loops := 0 }
  let result ← attempt run
  update fun _ => process
  return result

/-! ## Channels -/

/-- What a descriptor is joined to. -/
def channel? (descriptor : Nat) : Run (Option Channel) := do
  return ((← process).channels.find? (·.1 = descriptor)).map (·.2)

/-- Joins a descriptor to a channel. -/
def join (descriptor : Nat) (channel : Channel) : Run Unit :=
  update fun process =>
    { process with channels := (descriptor, channel) :: process.channels.filter (·.1 ≠ descriptor) }

/-- Shuts a descriptor. -/
def shut (descriptor : Nat) : Run Unit :=
  update fun process => { process with channels := process.channels.filter (·.1 ≠ descriptor) }

/-- Remembers that something could not be written. -/
def lose (descriptor : Nat) (reason : String) : Run Unit :=
  if descriptor = 1 then update fun process => { process with lost := some reason }
  else return

/-- Writes to a descriptor.  What is written to a descriptor that is not for writing is lost. -/
def write (descriptor : Nat) (text : List Char) : Run Unit := do
  if text.isEmpty then return
  match ← channel? descriptor with
  | some (.output index) =>
    modify fun state =>
      { state with world.outputs := state.world.outputs.modify index (text.reverse ++ ·) }
  | some (.file location) => updateFiles fun files => files.append location (Text.ofOctets text)
  | some (.device .full) => lose descriptor "No space left on device"
  | some (.device _) => return
  | some (.input ..) | none => lose descriptor "Bad file descriptor"

/-- Gives the file at a place its contents.  A new file has the rights that the mask of the
    process leaves; a device keeps nothing, or hands it on to a descriptor. -/
def setContents (location : Location) (contents : Bytes) : Run Unit := do
  let rights := Rights.without 0o666 (← process).mask
  match (← files).node? location with
  | some (.device (.descriptor number)) => write number (Text.octets contents)
  | some (.device _) => return
  | some (.file _ rights) =>
    updateFiles fun files => files.put location (.file contents rights)
  | _ => updateFiles fun files => files.put location (.file contents rights)

/-- How much is read at most from a device that never ends. -/
def endlessLength : Nat := 1048576

/-- What can be read from a device. -/
def deviceText : Device → List Char
  | .endless byte => List.replicate endlessLength (Char.ofNat byte.toNat)
  | .full => List.replicate endlessLength '\x00'
  | .null | .descriptor _ => []

/-- What is left to be read from a descriptor. -/
def unread (descriptor : Nat) : Run (List Char) := do
  match ← channel? descriptor with
  | some (.input index _) => return (← get).world.inputs.getD index []
  | some (.device device) => return deviceText device
  | _ => return []

/-- Leaves the given text to be read from a descriptor. -/
def leaveUnread (descriptor : Nat) (text : List Char) : Run Unit := do
  match ← channel? descriptor with
  | some (.input index _) =>
    modify fun state => { state with world.inputs := state.world.inputs.set index text }
  | _ => return

/-- Reads all that is left. -/
def readAll (descriptor : Nat) : Run (List Char) := do
  let text ← unread descriptor
  leaveUnread descriptor []
  return text

/-- What can be read from a node that is no directory. -/
def textOfNode : Node → Run (List Char)
  | .file contents _ => return Text.octets contents
  | .device (.descriptor number) => readAll number
  | .device device => return deviceText device
  | _ => return []

/-- The script that a path leads to, if it leads to one. -/
def script? (path : Path) : Run (Option (List Char)) := do
  match (← files).find (← process).directory path with
  | .ok (_, .file contents rights) => return some (← textOfNode (.file contents rights))
  | .ok (_, .device device) => return some (← textOfNode (.device device))
  | _ => return none

/-- What has been read too far from a descriptor can be read again. -/
def rewinds (descriptor : Nat) : Run Bool := do
  match ← channel? descriptor with
  | some (.input _ isFile) => return isFile
  | _ => return false

/-- A new channel with the given text to be read from it. -/
def newInput (isFile : Bool) (text : List Char) : Run Channel := do
  let world := (← get).world
  set { (← get) with world := { world with inputs := world.inputs ++ [text] } }
  return .input world.inputs.length isFile

/-- What a copy of the process writes to its output while it does something. -/
def captured {α : Type} (run : Run α) : Run (Except Interrupt α × List Char) := do
  let index := (← get).world.outputs.length
  modify fun state => { state with world.outputs := state.world.outputs ++ [[]] }
  let result ← inCopy do
    join 1 (.output index)
    run
  let text := ((← get).world.outputs.getD index []).reverse
  modify fun state => { state with world.outputs := state.world.outputs.take index }
  return (result, text)

/-! ## Messages -/

/-- A text of the library itself. -/
def say (descriptor : Nat) (text : String) : Run Unit :=
  write descriptor (Text.octetsOf text)

/-- A message about a line of the script. -/
def complainAt (line : Nat) (message : List Char) : Run Unit := do
  let process ← process
  let caller := if process.caller.isEmpty then [] else process.caller ++ [':', ' ']
  write 2 (process.name ++ Text.octetsOf s!": {line}: " ++ caller ++ message ++ ['\n'])

/-- A message about the command that is carried out. -/
def complain (message : List Char) : Run Unit := do
  complainAt (← process).line message

/-- Ends the script with a message, unless it is a mistake that the script outlives. -/
def fail {α : Type} (message : List Char) : Run α := do
  complain message
  throw (.failed 2)

/-! ## Variables -/

/-- The value of a variable. -/
def valueOf? (name : String) : Run (Option (List Char)) := do
  return ((← process).bindings.get? name).bind (·.value)

/-- Changes a variable, which may be a new one.  One that is fixed cannot be changed. -/
def changeVariable (name : String) (change : Variable → Variable) : Run Unit := do
  let old := (← process).bindings.get? name
  if old.any (·.fixed) then fail (name.toList ++ ": is read only".toList)
  let changed := change (old.getD { value := none })
  update fun process => { process with
    bindings := process.bindings.set name changed
    optionPlace := if name = "OPTIND" then 0 else process.optionPlace }

/-- Gives a variable a value. -/
def assign (name : String) (value : List Char) : Run Unit := do
  let all := (← process).has 'a'
  changeVariable name fun v => { v with value := some value, exported := v.exported || all }

/-- Tells other programs about a variable. -/
def exportName (name : String) : Run Unit :=
  update fun process =>
    let v : Variable := (process.bindings.get? name).getD { value := none }
    { process with bindings := process.bindings.set name { v with exported := true } }

/-- Keeps the value of a variable for good. -/
def fix (name : String) : Run Unit :=
  update fun process =>
    let v : Variable := (process.bindings.get? name).getD { value := none }
    { process with bindings := process.bindings.set name { v with fixed := true } }

/-- Puts a variable back to what it was. -/
def restore (name : String) (old : Option Variable) : Run Unit :=
  update fun process =>
    let bindings := match old with
      | some v => process.bindings.set name v
      | none => process.bindings.erase name
    { process with bindings }

/-- The variables that other programs are told about. -/
def exports : Run Variables := do
  return (← process).bindings.filterMap fun (name, v) =>
    match v.exported, v.value with
    | true, some value => some (name, Text.ofOctets value)
    | _, _ => none

/-- The characters that separate fields. -/
def separators : Run (List Char) := do
  return (← valueOf? "IFS").getD [' ', '\t', '\n']

end Run
end TestCoverage.Shell
