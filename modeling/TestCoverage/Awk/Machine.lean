/-
  TestCoverage.Awk.Machine

  What a program that works on records has at hand while it runs: variables and arrays, the
  record and its fields, and what it reads and writes.
-/
import TestCoverage.Awk.Layout
import TestCoverage.Awk.Pattern
import TestCoverage.Awk.Syntax
import TestCoverage.Awk.Table
import TestCoverage.Awk.Token
import TestCoverage.Shell.Descriptor

namespace TestCoverage.Awk

open Shell (Run)

/-- What a name is bound to: a value, or an array that is kept under a key.  A name with an
    array is one that has no value yet as well. -/
inductive Binding where
  | value (value : Value)
  | array (key : String)
deriving Repr

/-- Where something is read from. -/
inductive Source where
  | file (name : List Char)
  | program (command : List Char)
deriving DecidableEq, Repr

/-- What has been opened for reading: what is left, and the status with which it ends. -/
structure Opened where
  source : Source
  text : List Char
  status : Int := 0

/-- Where something is written to: a descriptor, or a program that is run when all is there. -/
inductive Target where
  | descriptor (number : Nat)
  | program
deriving DecidableEq, Repr

/-- What is written under a name, with what has not come to its target yet, the last character
    first. -/
structure Sink where
  name : List Char
  target : Target
  pending : List Char := []

/-- A running program. -/
structure Machine where
  program : Program
  /-- the name by which the program that runs it was called -/
  caller : List Char
  bindings : Entries Binding := []
  tables : Entries Table := []
  /-- the parameters of the function that runs -/
  locals : Entries Binding := []
  /-- how many arrays of functions have been made -/
  arrays : Nat := 0
  record : Value := .nothing
  fields : List Value := []
  /-- what is left to be read of the main input -/
  main : Option (List Char) := none
  /-- the next operand -/
  operand : Nat := 1
  /-- one of the operands was a file -/
  hasFile : Bool := false
  sources : List Opened := []
  /-- how many files have been opened for writing -/
  files : Nat := 0
  sinks : List Sink := []
  /-- the rules between whose records the program is, by their places -/
  inside : List Nat := []
  /-- the value with which the random numbers begin -/
  seed : Value := .nothing
  /-- what the next random number is made from -/
  chance : Nat := 1

/-- Why statements are not carried out to their end. -/
inductive Leave where
  | leaveLoop
  | nextRound
  | nextRecord
  | nextFile
  | finish (value : Value)
  | exit (status : Option Nat)
  /-- a mistake that ends everything -/
  | stop (status : Nat)

/-- Something that a program does. -/
abbrev Act := ExceptT Leave (StateT Machine Run)

/-- Runs a command of the shell. -/
abbrev Call := List Char → Run Nat

namespace Act

/-! ## Mistakes -/

/-- Does something, with why it has been left as a result. -/
def attempt {α : Type} (act : Act α) : Act (Except Leave α) :=
  ExceptT.mk do return .ok (← act.run)

/-- Goes on for too long. -/
def tire {α : Type} : Act α :=
  ((throw .endless : Run α) : Act α)

/-- Tells about a mistake and ends everything. -/
def stop {α : Type} (message : List Char) : Act α := do
  let caller := (← get).caller
  Run.write 2 (caller ++ ": ".toList ++ message ++ ['\n'])
  throw (.stop 2)

/-! ## Variables -/

/-- What a name is bound to.  One that is not known yet may become an array of its own. -/
def binding (name : String) : Act Binding := do
  let machine ← get
  return ((machine.locals.get? name).or (machine.bindings.get? name)).getD (.array name)

/-- The value of a variable that needs no further thought. -/
def plainValue (name : String) : Act Value := do
  match ← binding name with
  | .value value => return value
  | .array _ => return .nothing

/-- Gives a variable a value without further thought. -/
def bind (name : String) (value : Value) : Act Unit :=
  modify fun machine =>
    if (machine.locals.get? name).isSome then
      { machine with locals := machine.locals.set name (.value value) }
    else { machine with bindings := machine.bindings.set name (.value value) }

/-- The format for numbers in texts. -/
def numbers : Act (List Char) := do
  return (← plainValue "CONVFMT").toText "%.6g".toList

/-- The text of a value. -/
def textOf (value : Value) : Act (List Char) := do
  match value with
  | .number _ => return value.toText (← numbers)
  | _ => return value.toText []

/-- The text of a variable. -/
def textIn (name : String) : Act (List Char) := do
  textOf (← plainValue name)

/-- A mistake that is found while the program runs. -/
def fail {α : Type} (message : List Char) : Act α := do
  let file ← textIn "FILENAME"
  let fileRecords ← textIn "FNR"
  let records ← textIn "NR"
  stop ("run time error: ".toList ++ message ++ "\n\tFILENAME=\"".toList ++ file
    ++ "\" FNR=".toList ++ (if fileRecords.isEmpty then ['0'] else fileRecords)
    ++ " NR=".toList ++ (if records.isEmpty then ['0'] else records))

/-- A result, or a mistake. -/
def orFail {α : Type} : Except (List Char) α → Act α
  | .ok result => return result
  | .error message => fail message

/-! ## Records and fields -/

/-- The parts of a text between separators, as values. -/
def split (separator text : List Char) : Act (List Value) := do
  return (← orFail (Pattern.parts separator text)).map .input

/-- Makes a text the record. -/
def setRecord (text : List Char) : Act Unit := do
  let fields ← split (← textIn "FS") text
  modify fun machine => { machine with record := .input text, fields }

/-- Makes the record anew from fields. -/
def setFields (fields : List Value) : Act Unit := do
  let separator ← textIn "OFS"
  let texts ← fields.mapM textOf
  modify fun machine =>
    { machine with fields, record := .input (separator.intercalate texts) }

/-- The largest number of a field. -/
def maxField : Nat := 32767

/-- The number of a field, which may not be below zero. -/
def fieldNumber (value : Value) : Act Nat := do
  let n := value.toInt
  if n < 0 then fail ("negative field index $".toList ++ Numeral.ofInt n)
  else if maxField < n then
    let text := s!"maximum field size exceeded {maxField}"
    fail text.toList
  else return n.toNat

/-- A field, or the record itself. -/
def field (number : Nat) : Act Value := do
  let machine ← get
  if number = 0 then return machine.record
  else return machine.fields.getD (number - 1) .nothing

/-- Gives a field a value, or the record itself. -/
def setField (number : Nat) (value : Value) : Act Unit := do
  if number = 0 then setRecord (← textOf value)
  else
    let fields := (← get).fields
    let missing := List.replicate (number - fields.length) (Value.text [])
    setFields ((fields ++ missing).set (number - 1) value)

/-- The value of a variable. -/
def valueOf (name : String) : Act Value := do
  if name = "NF" then return .ofInt (← get).fields.length
  else plainValue name

/-- Gives a variable a value. -/
def setValue (name : String) (value : Value) : Act Unit := do
  if name = "NF" then
    let count ← fieldNumber value
    let fields := (← get).fields
    let missing := List.replicate (count - fields.length) (Value.text [])
    setFields ((fields ++ missing).take count)
  else bind name value

/-! ## Arrays -/

/-- The key under which the array of a name is kept. -/
def arrayOf (name : String) : Act String := do
  match ← binding name with
  | .array key => return key
  | .value _ => stop ("illegal reference to array ".toList ++ name.toList)

/-- The array that is kept under a key. -/
def table (key : String) : Act Table :=
  return ((← get).tables.get? key).getD {}

/-- Keeps an array under a key. -/
def setTable (key : String) (table : Table) : Act Unit :=
  modify fun machine => { machine with tables := machine.tables.set key table }

/-- The key that values stand for, with separators between several. -/
def keyOf (values : List Value) : Act Key := do
  match values with
  | [value] => return Key.ofValue (← numbers) value
  | _ =>
    let texts ← values.mapM textOf
    return .text ((← textIn "SUBSEP").intercalate texts)

/-- The value of an item of an array, which is made if it is not there. -/
def item (array : String) (key : Key) : Act Value := do
  let table := (← table array).lookFor true key
  setTable array table
  return (table.get? key).getD .nothing

/-- Gives an item of an array a value. -/
def setItem (array : String) (key : Key) (value : Value) : Act Unit := do
  setTable array (((← table array).lookFor true key).put key value)

/-! ## Reading -/

/-- The text of a file: an error if it cannot be opened, and nothing to be read from devices. -/
def fileText (name : List Char) : Run (Except FileError (Option (List Char))) := do
  if name = ['-'] then return .ok (some (← Run.readAll 0))
  match (← Run.files).find (← Run.process).directory (Text.ofOctets name) with
  | .error error => return .error error
  | .ok (_, .directory _) => return .ok none
  | .ok (_, node) => return .ok (some (← Run.textOfNode node))

/-- Sets variables as an operand says, if it is an assignment. -/
def assignOperand (text : List Char) : Act Bool := do
  match Shell.Utility.splitAssignment text with
  | (name, some value) =>
    if Shell.Reader.isName name.toList then
      setValue name (.input (Tokens.unescaped value.length value))
      return true
    else return false
  | _ => return false

/-- Opens the next file of the main input; false if there is none.  The bound is more than the
    number of operands. -/
def openNext : Nat → Act Bool
  | 0 => return false
  | bound + 1 => do
    let machine ← get
    let last := (← plainValue "ARGC").toInt
    if last ≤ machine.operand then
      if machine.hasFile then return false
      let text ← Run.readAll 0
      bind "FILENAME" (.text ['-'])
      set { (← get) with main := some text, hasFile := true }
      return true
    let operand ← item "ARGV" (.integer machine.operand)
    let operand ← textOf operand
    modify fun machine => { machine with operand := machine.operand + 1 }
    if operand.isEmpty then openNext bound
    else if ← assignOperand operand then openNext bound
    else
      match ← fileText operand with
      | .ok (some text) =>
        bind "FILENAME" (.text operand)
        bind "FNR" (.ofInt 0)
        modify fun machine => { machine with main := some text, hasFile := true }
        return true
      | .ok none => stop "read error (Is a directory)".toList
      | .error error =>
        stop ("cannot open \"".toList ++ operand ++ "\" (".toList
          ++ (Shell.Utility.describe error).toList ++ [')'])

/-- Reads the next record of the main input.  The bound is more than the number of operands. -/
def readMain : Nat → Act (Option (List Char))
  | 0 => return none
  | bound + 1 => do
    match (← get).main with
    | none => if ← openNext (bound + 1) then readMain bound else return none
    | some text =>
      match ← orFail (Pattern.record? (← textIn "RS") text) with
      | some (record, rest) =>
        modify fun machine => { machine with main := some rest }
        return some record
      | none =>
        modify fun machine => { machine with main := none }
        if ← openNext (bound + 1) then readMain bound else return none

/-- How many operands there may be. -/
def operandBound : Act Nat := do
  return (← plainValue "ARGC").toInt.toNat + 3

/-- Counts a record of the main input. -/
def countRecord : Act Unit := do
  bind "NR" (.number (.sum (← plainValue "NR").toNumber (.ofInt 1)))
  bind "FNR" (.number (.sum (← plainValue "FNR").toNumber (.ofInt 1)))

/-- What has been written to a descriptor comes there. -/
def flushSink (sink : Sink) : Run Unit := do
  match sink.target with
  | .descriptor number => Run.write number sink.pending.reverse
  | .program => return

/-- What has been written to descriptors comes there. -/
def flush : Act Unit := do
  let sinks := (← get).sinks
  modify fun machine => { machine with
    sinks := machine.sinks.map fun sink =>
      match sink.target with
      | .descriptor _ => { sink with pending := [] }
      | .program => sink }
  sinks.forM fun sink => flushSink sink

/-- The status of a command that has been run. -/
def statusOf : Except Shell.Interrupt Nat → Act Int
  | .ok status | .error (.exit status) | .error (.failed status) | .error (.back status) =>
    return status
  | .error (.killed signal) => return 256 + signal
  | .error .endless => tire
  | .error _ => return 0

/-- What is left to be read from a source; none if it cannot be opened. -/
def opened (call : Call) (source : Source) : Act (Option Opened) := do
  match (← get).sources.find? (·.source = source) with
  | some opened => return some opened
  | none =>
    match source with
    | .program command =>
      flush
      let (result, text) ← Run.captured (call command)
      return some { source, text, status := ← statusOf result }
    | .file name =>
      match ← fileText name with
      | .ok (some text) => return some { source, text }
      | .ok none => stop "read error (Is a directory)".toList
      | .error _ => return none

/-- Reads the next record of a source: none at its end, and an error if it cannot be opened. -/
def readSource (call : Call) (source : Source) : Act (Except Unit (Option (List Char))) := do
  match ← opened call source with
  | none => return .error ()
  | some opened =>
    let found ← orFail (Pattern.record? (← textIn "RS") opened.text)
    let opened := { opened with text := (found.map (·.2)).getD [] }
    modify fun machine =>
      { machine with sources := opened :: machine.sources.filter (·.source ≠ source) }
    return .ok (found.map (·.1))

/-! ## Writing -/

/-- The first descriptor that is used for a file. -/
def firstDescriptor : Nat := 1000

/-- The name under which the output goes. -/
def standardOutput : List Char := "/dev/stdout".toList

/-- The target for a file with a name, which is emptied unless it is to be kept. -/
def openTarget (keeps : Bool) (name : List Char) : Act Target := do
  if name = standardOutput then return .descriptor 1
  else if name = "/dev/stderr".toList then return .descriptor 2
  else
    let number := firstDescriptor + (← get).files
    modify fun machine => { machine with files := machine.files + 1 }
    let refuse (reason : String) : Act Target :=
      stop ("cannot open \"".toList ++ name ++ "\" for output (".toList ++ reason.toList ++ [')'])
    match (← Run.files).locate (← Run.process).directory (Text.ofOctets name) with
    | .error error => refuse (Shell.Utility.describe error)
    | .ok _ =>
      match ← Run.openOutput keeps false number name with
      | none => return .descriptor number
      | some reason => refuse reason

/-- Writes under a name whose target is opened if it is not yet.  Only what is told about
    mistakes comes to its target at once. -/
def emit (name text : List Char) (opens : Act Target) : Act Unit := do
  if ¬ (← get).sinks.any (·.name = name) then
    let target ← opens
    modify fun machine => { machine with sinks := machine.sinks ++ [{ name, target }] }
  match (← get).sinks.find? (·.name = name) with
  | some { target := .descriptor 2, .. } => Run.write 2 text
  | _ =>
    modify fun machine => { machine with
      sinks := machine.sinks.map fun sink =>
        if sink.name = name then { sink with pending := text.reverse ++ sink.pending } else sink }

/-- Ends what is written under a name, and gives the status. -/
def endSink (call : Call) (sink : Sink) : Act Int := do
  match sink.target with
  | .descriptor _ => do
    flushSink sink
    return 0
  | .program => do
    let result ← Run.inCopy do
      Run.join 0 (← Run.newInput false sink.pending.reverse)
      call sink.name
    statusOf result

/-- Ends all that is written, the programs first. -/
def endSinks (call : Call) : Act Unit := do
  let sinks := (← get).sinks
  modify fun machine => { machine with sinks := [] }
  let (programs, others) := sinks.partition (·.target = .program)
  (programs ++ others).forM fun sink => do
    let _ ← endSink call sink

/-- Ends what is read and written under a name, and gives the status. -/
def close (call : Call) (name : List Char) : Act Int := do
  let machine ← get
  let isMeant (opened : Opened) : Bool :=
    opened.source == .file name || opened.source == .program name
  set { machine with
    sources := machine.sources.filter (!isMeant ·)
    sinks := machine.sinks.filter (·.name ≠ name) }
  match machine.sinks.find? (·.name = name), machine.sources.find? isMeant with
  | some sink, _ => endSink call sink
  | none, some opened => return opened.status
  | none, none => return -1

end Act
end TestCoverage.Awk
