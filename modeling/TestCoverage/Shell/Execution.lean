/-
  TestCoverage.Shell.Execution

  Carries out commands and runs programs.

  Words are expanded, commands are carried out, and programs are run by functions that call
  each other, each with less fuel than the one before.  A process whose fuel runs out goes
  on for too long.
-/
import TestCoverage.Shell.Descriptor
import TestCoverage.Shell.Find
import TestCoverage.Shell.Parameter
import TestCoverage.Shell.Program
import TestCoverage.Shell.Records

namespace TestCoverage.Shell

/-! ## Parts without commands -/

namespace Run

/-- Keeps the status of a command, and ends the process if a failure ends the script. -/
def settle (status : Nat) : Run Nat := do
  update fun process => { process with status }
  let process ← process
  if status ≠ 0 ∧ process.has 'e' ∧ ¬ process.isCondition then
    throw (.exit status)
  return status

/-- Keeps the status of a command. -/
def record (status : Nat) : Run Nat := do
  update fun process => { process with status }
  return status

/-- Does something for which a setting of the process is another one for a while. -/
def setting {α : Type} (set : Process → Process) (restore : Process → Process → Process)
    (run : Run α) : Run α := do
  let before ← process
  update set
  let result ← attempt run
  update (restore before)
  match result with
  | .ok value => return value
  | .error interrupt => throw interrupt

/-- Does something with something else to come behind it. -/
def notLast {α : Type} : Run α → Run α :=
  setting (fun process => { process with isLast := false })
    fun before process => { process with isLast := before.isLast }

/-- Does something whose failure decides something. -/
def asCondition {α : Type} : Run α → Run α :=
  setting (fun process => { process with isCondition := true, isLast := false })
    fun before process =>
      { process with isCondition := before.isCondition, isLast := before.isLast }

/-- Does something that messages name. -/
def under {α : Type} (caller : List Char) : Run α → Run α :=
  setting (fun process => { process with caller })
    fun before process => { process with caller := before.caller }

/-- Does something as part of a loop. -/
def inLoop {α : Type} (run : Run α) : Run (Except Interrupt α) := do
  update fun process => { process with loops := process.loops + 1 }
  let result ← attempt (notLast run)
  update fun process => { process with loops := process.loops - 1 }
  return result

/-! ## Names -/

/-- Commands that belong to the language and call others. -/
def callers : List String :=
  [".", "eval", "exec", "command", "hash", "jobs", "kill", "type", "wait"]

/-- The name is that of a command whose mistakes end a script. -/
def isSpecialName (name : String) : Bool :=
  (Utility.special? name).isSome || name ∈ callers.take 3

/-- The name is that of a command of the language. -/
def isBuiltIn (name : String) : Bool :=
  (Utility.special? name).isSome || (Utility.builtIn? name).isSome || name ∈ callers

/-- The path of the program that a name stands for. -/
def programPath? (name : List Char) : Run (Option (List Char)) := do
  let paths := Executable.candidates (Executable.searchPathOf (← exports)) (Text.ofOctets name)
  let files ← files
  let directory := (← process).directory
  return (paths.find? (Executable.isAt files directory)).map Text.octets

/-- Shows what is called by a name.  The result is true if there is something. -/
def showName (name : List Char) : Run Bool := do
  let text := String.ofList name
  let process ← process
  match process.aliases.get? text with
  | some value =>
    write 1 ("alias ".toList ++ name ++ '=' :: Utility.quoted value ++ ['\n'])
    return true
  | none =>
    if text ∈ Reader.reserved ∨ (process.functions.get? text).isSome ∨ isBuiltIn text then
      write 1 (name ++ ['\n'])
      return true
    else
      match ← programPath? name with
      | some path =>
        write 1 (path ++ ['\n'])
        return true
      | none => return false

/-- Tells what a name stands for.  The result is true if it stands for something. -/
def describeName (name : List Char) : Run Bool := do
  let text := String.ofList name
  let process ← process
  let tell (what : List Char) : Run Bool := do
    write 1 (name ++ what ++ ['\n'])
    return true
  if text ∈ Reader.reserved then tell " is a shell keyword".toList
  else
    match process.aliases.get? text with
    | some value => tell (" is an alias for ".toList ++ value)
    | none =>
      if (process.functions.get? text).isSome then tell " is a shell function".toList
      else if isSpecialName text then tell " is a special shell builtin".toList
      else if isBuiltIn text then tell " is a shell builtin".toList
      else
        match ← programPath? name with
        | some path => tell (" is ".toList ++ path)
        | none =>
          let _ ← tell ": not found".toList
          return false

/-- Looks for the programs that names stand for, as if to remember where they are. -/
def remember (names : List (List Char)) : Run Nat := do
  let missing ← names.filterM fun name => do
    return !isBuiltIn (String.ofList name) && (← programPath? name).isNone
  missing.forM fun name => complain (name ++ ": not found".toList)
  return Utility.statusOf missing.isEmpty

/-! ## Signals and jobs -/

/-- Shows the names of all signals, or that of the signal that a status tells. -/
def listSignals (statuses : List (List Char)) : Run Nat := do
  match statuses with
  | [] =>
    say 1 "0\n"
    (List.range Utility.lastSignal).forM fun i => say 1 s!"{Utility.signalName (i + 1)}\n"
    return 0
  | text :: _ =>
    let n ← Utility.numberFrom text
    let n := if 128 < n then n - 128 else n
    if 0 < n ∧ n ≤ Utility.lastSignal then
      say 1 s!"{Utility.signalName n}\n"
      return 0
    else fail ("invalid signal number or exit status: ".toList ++ text)

/-- Starts a command by the side of those that follow.  It runs when they wait. -/
def start (body : Command) : Run Unit := do
  let number := (← get).world.lastProcess + 1
  let copy ← process
  let channels := (0, .device .null) :: copy.channels.filter (·.1 ≠ 0)
  let job : Job := {
    number, body
    process := { copy with channels, loops := 0, isLast := true, isCondition := false } }
  modify fun state => { state with
    world.lastProcess := number
    world.jobs := state.world.jobs ++ [job] }
  update fun process => { process with lastJob := some number }

/-! ## How commands of the language end -/

/-- A message of a shell that has nothing to carry out. -/
def refuse (message : List Char) : Run Nat := do
  write 2 ((← process).name ++ ": 0: ".toList ++ message ++ ['\n'])
  return 2

/-- What a command of the language does, and its status; another one if something could not
    be written.  A mistake ends the script only if it is to. -/
def called (name : String) (ends : Bool) (run : Run Nat) : Run Nat := do
  update fun process => { process with lost := none }
  let result ← attempt (under name.toList do
    let status ← run
    if (← process).lost.isSome then
      update fun process => { process with lost := none }
      complain s!"{name}: I/O error".toList
      return if status = 0 then 1 else status
    else return status)
  match result with
  | .ok status => return status
  | .error (.failed status) => if ends then throw (.failed status) else return status
  | .error interrupt => throw interrupt

/-- What a program does, and its status; another one if something could not be written. -/
def written (name : String) (run : Run Nat) : Run Nat := do
  let status ← run
  match (← process).lost with
  | some reason => do
    write 2 (Text.octetsOf s!"{name}: write error: {reason}\n")
    return Utility.lostStatus name
  | none => return status

/-! ## How processes end -/

/-- The status that an interrupt of a copy of the process means for the process.  A signal
    is for both. -/
def statusOfCopy : Except Interrupt Nat → Run Nat
  | .ok status | .error (.exit status) | .error (.failed status) | .error (.back status) =>
    return status % 256
  | .error (.killed signal) => throw (.killed signal)
  | .error .endless => throw .endless
  | .error _ => return 0

end Run

/-- How a process ends. -/
def Ending.ofResult : Except Interrupt Nat → Ending
  | .ok status | .error (.exit status) | .error (.failed status) | .error (.back status) =>
    exited (status % 256)
  | .error (.killed signal) => killed signal
  | .error .endless => endless
  | .error _ => exited 0

/-- What a shell that has been told about some variables knows at its beginning. -/
def Process.shellVariables (bindings : Variables) (directory : Location) (parent : Nat) :
    Entries Variable :=
  let told : Entries Variable :=
    (bindings.filter fun (name, _) => Reader.isName name.toList).map fun (name, value) =>
      (name, { value := some (Text.octets value), exported := true })
  let own : List (String × List Char) := [
    ("IFS", [' ', '\t', '\n']), ("OPTIND", ['1']), ("PS1", "# ".toList), ("PS2", "> ".toList),
    ("PS4", "+ ".toList), ("PPID", Nat.toDigits 10 parent)]
  let known := own.foldl (fun (known : Entries Variable) (name, value) =>
    Entries.set known name
      { value := some value, exported := (known.get? name).any (·.exported) }) told
  Entries.set known "PWD" { value := some (Utility.pathOf directory), exported := true }

/-! ## Commands -/

open Run

mutual

/-- Expands pieces, in quotes or not. -/
def expand : Nat → Bool → List Piece → Run (List Mark)
  | 0, _, _ => throw .endless
  | _, _, [] => return []
  | fuel + 1, inQuotes, piece :: pieces => do
    let first ← expandPiece fuel inQuotes piece
    return first ++ (← expand fuel inQuotes pieces)

/-- Expands a piece. -/
def expandPiece : Nat → Bool → Piece → Run (List Mark)
  | 0, _, _ => throw .endless
  | fuel + 1, inQuotes, piece => do
    match piece with
    | .plain text => return text.map fun c => if inQuotes then .quoted c else .plain c
    | .literal text => return .nothing :: text.map .quoted
    | .quotes pieces =>
      let inner ← expand fuel true pieces
      let isArguments := match pieces with
        | [.parameter "@" _] => true
        | _ => false
      return if isArguments then inner else .nothing :: inner
    | .mistaken => fail "Bad substitution".toList
    | .parameter "@" .value => return argumentMarks inQuotes (← process).arguments
    | .parameter "*" .value =>
      if inQuotes then return marks true ((← parameter? "*").getD [])
      else return argumentMarks false (← process).arguments
    | .parameter name use =>
      let value? ← parameter? name
      match use with
      | .value =>
        checkSet name value?
        return marks inQuotes (value?.getD [])
      | .length =>
        checkSet name value?
        return marks inQuotes (Nat.toDigits 10 (value?.getD []).length)
      | .without atEnd longest pattern =>
        checkSet name value?
        let pattern := Mark.pattern (← expand fuel false pattern)
        let value := value?.getD []
        return marks inQuotes
          (if atEnd then Pattern.dropEnd pattern longest value
          else Pattern.dropStart pattern longest value)
      | .either fallback orEmpty word =>
        let isMissing := value?.isNone ∨ (orEmpty ∧ value? = some [])
        let word ← if inQuotes then pure word else withHome word
        match fallback with
        | .replace => if isMissing then return [] else expand fuel inQuotes word
        | .use =>
          if isMissing then expand fuel inQuotes word
          else return marks inQuotes (value?.getD [])
        | .assign =>
          if isMissing then
            let value ← expandText fuel word
            assignParameter name value
            return marks inQuotes value
          else return marks inQuotes (value?.getD [])
        | .fail =>
          if isMissing then
            let usual := if orEmpty then "parameter not set or null" else "parameter not set"
            let message ← if word.isEmpty then pure usual.toList else expandText fuel word
            fail (name.toList ++ ": ".toList ++ message)
          else return marks inQuotes (value?.getD [])
    | .arithmetic expression =>
      return marks inQuotes (← calculate (← expandText fuel expression))
    | .output body =>
      let (result, text) ← captured (asSubshell fuel (execute fuel body))
      let status ← statusOfCopy result
      update fun process => { process with outputStatus := some status }
      let text := text.filter (· ≠ '\x00')
      return marks inQuotes (text.reverse.dropWhile (· = '\n')).reverse

/-- Expands a word into a text. -/
def expandText : Nat → Word → Run (List Char)
  | 0, _ => throw .endless
  | fuel + 1, word => return Mark.text (← expand fuel false word)

/-- Expands words into fields. -/
def expandWords : Nat → List Word → Run (List (List Char))
  | 0, _ => throw .endless
  | _, [] => return []
  | fuel + 1, word :: words => do
    let marks ← expand fuel false (← withHome word)
    let fields ← (Mark.fields (← separators) .between marks).mapM paths
    return fields.flatten ++ (← expandWords fuel words)

/-- Redirects descriptors; false if that cannot be done. -/
def redirectAll : Nat → List Redirect → Run Bool
  | 0, _ => throw .endless
  | _, [] => return true
  | fuel + 1, .redirect descriptor kind target :: redirects => do
    let word ← if kind = .document then pure target else withHome target
    let text ← expandText fuel word
    match ← redirect descriptor kind text with
    | none => redirectAll fuel redirects
    | some reason =>
      let verb := match kind with
        | .read => "cannot open "
        | .copy => ""
        | _ => "cannot create "
      complain (Text.octetsOf verb ++ text ++ Text.octetsOf s!": {reason}")
      return false

/-- Does something with descriptors redirected.  If that cannot be done, this ends the script
    if it is to. -/
def withRedirects : Nat → Bool → List Redirect → Run Nat → Run Nat
  | 0, _, _, _ => throw .endless
  | fuel + 1, ends, redirects, run =>
    setting id (fun before process => { process with channels := before.channels }) do
      if ← redirectAll fuel redirects then run
      else if ends then throw (.failed 2)
      else return 2

/-- Assigns variables, and gives what they have been before. -/
def assignAll : Nat → List (String × Word) → Run (List (String × Option Variable))
  | 0, _ => throw .endless
  | _, [] => return []
  | fuel + 1, (name, word) :: assignments => do
    let value ← expandText fuel (← withHomes word)
    let old := (← process).bindings.get? name
    if (← process).has 'x' then
      write 2 ("+ ".toList ++ name.toList ++ '=' :: value ++ ['\n'])
    assign name value
    return (name, old) :: (← assignAll fuel assignments)

/-- Carries out a command. -/
def execute : Nat → Command → Run Nat
  | 0, _ => throw .endless
  | fuel + 1, command => do
    if (← process).has 'n' then return 0
    match command with
    | .nothing => return 0
    | .at line body =>
      update fun process => { process with line }
      execute fuel body
    | .simple assignments words redirects =>
      settle (← executeSimple fuel assignments words redirects)
    | .pipeline negated first others =>
      if negated then
        let status ← asCondition (execute fuel (.pipeline false first others))
        record (if status = 0 then 1 else 0)
      else if others.isEmpty then execute fuel first
      else settle (← executePipeline fuel first others)
    | .sequence first second =>
      let _ ← notLast (execute fuel first)
      execute fuel second
    | .both first second =>
      let status ← asCondition (execute fuel first)
      if status = 0 then execute fuel second else return status
    | .either first second =>
      let status ← asCondition (execute fuel first)
      if status = 0 then return status else execute fuel second
    | .background body =>
      start body
      record 0
    | .subshell body => settle (← statusOfCopy (← inCopy (asSubshell fuel (execute fuel body))))
    | .branch test body otherwise =>
      if (← asCondition (execute fuel test)) = 0 then execute fuel body
      else
        update fun process => { process with status := 0 }
        execute fuel otherwise
    | .loop untilSuccess test body => record (← executeLoop fuel untilSuccess test body 0)
    | .each name words body =>
      let items ← match words with
        | some words => expandWords fuel words
        | none => do pure (← process).arguments
      record (← executeEach fuel name items body 0)
    | .choice subject cases =>
      let text ← expandText fuel (← withHome subject)
      record (← executeChoice fuel text cases)
    | .define name body =>
      update fun process => { process with functions := process.functions.set name body }
      record 0
    | .redirected body redirects =>
      record (← notLast (withRedirects fuel false redirects (execute fuel body)))

/-- Carries out a loop. -/
def executeLoop : Nat → Bool → Command → Command → Nat → Run Nat
  | 0, _, _, _, _ => throw .endless
  | fuel + 1, untilSuccess, test, body, last => do
    match ← inLoop (asCondition (execute fuel test)) with
    | .error (.leave loops) => if 1 < loops then throw (.leave (loops - 1)) else return 0
    | .error interrupt => throw interrupt
    | .ok status =>
      if (status = 0) = untilSuccess then return last
      else
        match ← inLoop (execute fuel body) with
        | .ok status => executeLoop fuel untilSuccess test body status
        | .error (.leave loops) => if 1 < loops then throw (.leave (loops - 1)) else return 0
        | .error (.again loops) =>
          if 1 < loops then throw (.again (loops - 1))
          else executeLoop fuel untilSuccess test body 0
        | .error interrupt => throw interrupt

/-- Carries out a command for each of some texts. -/
def executeEach : Nat → String → List (List Char) → Command → Nat → Run Nat
  | 0, _, _, _, _ => throw .endless
  | _, _, [], _, last => return last
  | fuel + 1, name, item :: items, body, _ => do
    assign name item
    match ← inLoop (execute fuel body) with
    | .ok status => executeEach fuel name items body status
    | .error (.leave loops) => if 1 < loops then throw (.leave (loops - 1)) else return 0
    | .error (.again loops) =>
      if 1 < loops then throw (.again (loops - 1)) else executeEach fuel name items body 0
    | .error interrupt => throw interrupt

/-- Carries out the first case of which a pattern matches. -/
def executeChoice : Nat → List Char → List (List Word × Command) → Run Nat
  | 0, _, _ => throw .endless
  | _, _, [] => return 0
  | fuel + 1, text, (patterns, body) :: cases => do
    if ← matchesAny fuel text patterns then execute fuel body
    else executeChoice fuel text cases

/-- One of the patterns matches. -/
def matchesAny : Nat → List Char → List Word → Run Bool
  | 0, _, _ => throw .endless
  | _, _, [] => return false
  | fuel + 1, text, word :: words => do
    let pattern := Mark.pattern (← expand fuel false (← withHome word))
    if Pattern.isMatch pattern text then return true else matchesAny fuel text words

/-- Carries out commands, each reading what the one before it has written. -/
def executePipeline : Nat → Command → List Command → Run Nat
  | 0, _, _ => throw .endless
  | fuel + 1, first, [] => do statusOfCopy (← inCopy (asSubshell fuel (execute fuel first)))
  | fuel + 1, first, next :: others => do
    let (result, text) ← captured (asSubshell fuel (execute fuel first))
    let _ ← statusOfCopy result
    let channels := (← process).channels
    join 0 (← newInput false text)
    let status ← executePipeline fuel next others
    update fun process => { process with channels }
    return status

/-- Carries out a call, or only assignments and redirections.  What has ended a program is
    told. -/
def executeSimple : Nat → List (String × Word) → List Word → List Redirect → Run Nat
  | 0, _, _, _ => throw .endless
  | fuel + 1, assignments, words, redirects => do
    update fun process => { process with outputStatus := none }
    let fields ← expandWords fuel words
    match fields with
    | [] =>
      withRedirects fuel false redirects do
        let _ ← assignAll fuel assignments
        return (← process).outputStatus.getD 0
    | name :: arguments =>
      if name = "exec".toList then executeExec fuel arguments redirects
      else
        let name := String.ofList name
        let stays := isSpecialName name
        let old ← assignAll fuel assignments
        if (← process).has 'x' then
          write 2 ("+ ".toList ++ [' '].intercalate fields ++ ['\n'])
        if !stays then old.forM fun (variableName, _) => exportName variableName
        let result ← attempt (withRedirects fuel stays redirects (call fuel name arguments))
        if !stays then old.forM fun (variableName, value) => restore variableName value
        if let some signal := (← process).fallen then
          update fun process => { process with fallen := none }
          if let some text := Utility.signalText? signal then say 2 s!"{text}\n"
        match result with
        | .ok status => return status
        | .error interrupt => throw interrupt

/-- Puts a program in place of the process, or only redirects its descriptors. -/
def executeExec : Nat → List (List Char) → List Redirect → Run Nat
  | 0, _, _ => throw .endless
  | fuel + 1, arguments, redirects => do
    if ← redirectAll fuel redirects then
      let parsed ← under "exec".toList (Utility.optionsOf [] [] arguments)
      match parsed.operands with
      | [] => return 0
      | name :: arguments => do
        match ← under "exec".toList (callProgram fuel name arguments) with
        | none => throw (.exit (← process).status)
        | some ending => do
          update fun process => { process with traps := [] }
          match ending with
          | .exited status => throw (.exit status)
          | .killed signal => throw (.killed signal)
          | .endless => throw .endless
    else throw (.failed 2)

/-- Calls a function, a command of the language or a program. -/
def call : Nat → String → List (List Char) → Run Nat
  | 0, _, _ => throw .endless
  | fuel + 1, name, arguments => do
    match (← process).functions.get? name with
    | some body => callFunction fuel body arguments
    | none => callPlain fuel true name arguments

/-- Calls a command of the language or a program.  A mistake of a special command ends the
    script if it is to. -/
def callPlain : Nat → Bool → String → List (List Char) → Run Nat
  | 0, _, _, _ => throw .endless
  | fuel + 1, ends, name, arguments => do
    match (Utility.special? name).or (Utility.builtIn? name) with
    | some utility => called name (ends && isSpecialName name) (utility arguments)
    | none =>
      if name ∈ callers then
        called name (ends && isSpecialName name) (callCaller fuel name arguments)
      else
        match ← callProgram fuel name.toList arguments with
        | none => return (← process).status
        | some (.exited status) => return status
        | some .endless => throw .endless
        | some (.killed signal) =>
          let process ← process
          if process.isLast ∧ process.traps.isEmpty then throw (.killed signal)
          update fun process => { process with fallen := some signal }
          return 128 + signal

/-- Calls a command of the language that calls others or asks for them. -/
def callCaller : Nat → String → List (List Char) → Run Nat
  | 0, _, _ => throw .endless
  | fuel + 1, name, arguments => do
    match name with
    | "eval" => executeScript fuel false ([' '].intercalate arguments)
    | "." => callFile fuel (← Utility.optionsOf [] [] arguments).operands
    | "kill" => kill fuel arguments
    | "wait" => wait fuel (← Utility.optionsOf [] [] arguments).operands
    | "hash" => remember (← Utility.optionsOf ['r', 'v'] [] arguments).operands
    | "jobs" =>
      (← get).world.jobs.zipIdx.forM fun (_, i) =>
        say 1 s!"[{i + 1}] + Running                    \n"
      return 0
    | "type" =>
      let known ← arguments.mapM describeName
      return if known.all id then 0 else 127
    | "command" =>
      let parsed ← Utility.optionsOf ['p', 'v', 'V'] [] arguments
      match parsed.operands with
      | [] => return 0
      | name :: rest =>
        if parsed.has 'V' then return if ← describeName name then 0 else 127
        else if parsed.has 'v' then return if ← showName name then 0 else 127
        else under [] (callPlain fuel false (String.ofList name) rest)
    | _ => return 127

/-- Carries out the commands in a file. -/
def callFile : Nat → List (List Char) → Run Nat
  | 0, _ => throw .endless
  | _, [] => return 0
  | fuel + 1, name :: _ => do
    let searchPath := Executable.searchPathOf (← exports)
    let candidates := Executable.candidates searchPath (Text.ofOctets name)
    match ← candidates.findSomeM? fun path => return (← script? path).map (path, ·) with
    | some (path, script) =>
      let result ← attempt (under (Text.octets path) (notLast (executeScript fuel false script)))
      match result with
      | .ok status | .error (.back status) => return status
      | .error interrupt => throw interrupt
    | none =>
      if name.contains '/' then fail ("cannot open ".toList ++ name ++ ": No such file".toList)
      else fail (name ++ ": not found".toList)

/-- Calls a function. -/
def callFunction : Nat → Command → List (List Char) → Run Nat
  | 0, _, _ => throw .endless
  | fuel + 1, body, arguments => do
    let before ← process
    update fun process => { process with arguments, saved := some [], loops := 0 }
    let result ← attempt (notLast (execute fuel body))
    ((← process).saved.getD []).forM fun (name, old) => restore name old
    update fun process => { process with
      arguments := before.arguments
      saved := before.saved
      loops := before.loops }
    match result with
    | .ok status | .error (.back status) => return status
    | .error interrupt => throw interrupt

/-- Sends a signal to processes, or lists signals. -/
def kill : Nat → List (List Char) → Run Nat
  | 0, _ => throw .endless
  | fuel + 1, arguments => do
    let given? := match arguments with
      | ('-' :: name) :: rest => (Utility.signal? name).map (·, rest)
      | _ => none
    let (signal?, lists, processes) ← match given? with
      | some (signal, rest) => pure (some signal, false, rest)
      | none => do
        let parsed ← Utility.optionsOf ['l'] ['s'] arguments
        match parsed.value? 's' with
        | none => pure (none, parsed.has 'l', parsed.operands)
        | some name =>
          match Utility.signal? name with
          | some signal => pure (some signal, parsed.has 'l', parsed.operands)
          | none => fail ("invalid signal number or name: ".toList ++ name)
    if lists then listSignals processes
    else if processes.isEmpty then
      fail ("Usage: kill [-s sigspec | -signum | -sigspec] [pid | job]... or\n".toList
        ++ "kill -l [exitstatus]".toList)
    else
      let statuses ← processes.mapM fun process => sendSignal fuel (signal?.getD 15) process
      return Utility.statusOf (statuses.all (· = 0))

/-- Sends a signal to a process: this one, or one that has been started by its side. -/
def sendSignal : Nat → Nat → List Char → Run Nat
  | 0, _, _ => throw .endless
  | fuel + 1, signal, target => do
    if target.head? = some '%' then fail ("No such job: ".toList ++ target)
    let number ← Utility.numberFrom (if target.head? = some '-' then target.tail else target)
    let process ← process
    let world := (← get).world
    if number = process.number ∨ number = 0 then
      if signal ∈ Utility.harmless then return 0
      match process.traps.get? (toString signal), signal == 9 with
      | some action, false =>
        let _ ← executeScript fuel false action
        return 0
      | _, _ => throw (.killed signal)
    else if world.jobs.any (·.number = number) then
      if signal ∈ Utility.harmless then return 0
      modify fun state => { state with
        world.jobs := state.world.jobs.filter (·.number ≠ number)
        world.ended := (number, .killed signal) :: state.world.ended }
      return 0
    else if world.ended.any (·.1 = number) then return 0
    else
      complain "No such process\n".toList
      return 1

/-- Runs the commands that have been started by the side of others, but for the first of
    them. -/
def runJobs : Nat → Nat → Run Unit
  | 0, _ => throw .endless
  | fuel + 1, others => do
    match (← get).world.jobs.drop others with
    | [] => return
    | job :: _ =>
      modify fun state => { state with world.jobs := state.world.jobs.eraseIdx others }
      let before ← process
      update fun _ => job.process
      let result ← attempt (asSubshell fuel (execute fuel job.body))
      update fun _ => before
      let ending := Ending.ofResult result
      if ending = .endless then throw .endless
      modify fun state => { state with world.ended := (job.number, ending) :: state.world.ended }
      runJobs fuel others

/-- Waits for commands that have been started by the side of others: for all, or for those
    with given numbers. -/
def wait : Nat → List (List Char) → Run Nat
  | 0, _ => throw .endless
  | fuel + 1, targets => do
    let numbers ← targets.mapM fun target => do
      if target.head? = some '%' then fail ("No such job: ".toList ++ target)
      else Utility.numberFrom target
    runJobs fuel 0
    let statuses ← numbers.mapM fun number => do
      match (← get).world.ended.find? (·.1 = number) with
      | none => return 127
      | some (_, .exited status) => return status
      | some (_, .endless) => throw .endless
      | some (_, .killed signal) =>
        if let some text := Utility.signalText? signal then say 2 s!"{text}\n"
        return 128 + signal
    return statuses.getLast?.getD 0

/-- Carries out the lines of a script.  A mistake ends the process.  The last command may be
    the last of the process. -/
def executeScript : Nat → Bool → List Char → Run Nat
  | 0, _, _ => throw .endless
  | fuel + 1, isLast, script =>
    setting id (fun before process => { process with lineRead := before.lineRead })
      (executeLines fuel isLast (.ofText script) 0)

/-- Carries out lines one after the other. -/
def executeLines : Nat → Bool → Source → Nat → Run Nat
  | 0, _, _, _ => throw .endless
  | fuel + 1, isLast, source, last => do
    match Reader.next { source with aliases := (← process).aliases } with
    | .error misprint =>
      complainAt misprint.line s!"Syntax error: {misprint.mistake.message}".toList
      throw (.failed 2)
    | .ok none => return last
    | .ok (some (command, rest)) =>
      let isLastCommand := isLast ∧ rest.text.isEmpty
      let rest := { rest with text := rest.text.drop 1 }
      update fun process => { process with lineRead := rest.line, isLast := isLastCommand }
      if (← process).has 'n' then executeLines fuel isLast rest last
      else
        let status ← execute fuel command
        executeLines fuel isLast rest status

/-- Does something to the end of a process: then what is to be done at its end is done, and
    what runs by its side comes to its end. -/
def toEnd : Nat → Run Nat → Run Nat
  | 0, _ => throw .endless
  | fuel + 1, run => do
    let others := (← get).world.jobs.length
    let result ← attempt run
    let traps := (← process).traps
    update fun process => { process with traps := traps.erase "0" }
    let result ← match traps.get? "0", result with
      | some action, .ok status | some action, .error (.exit status)
      | some action, .error (.failed status) =>
        update fun process => { process with status, isCondition := false }
        attempt do
          let _ ← executeScript fuel false action
          throw (.exit status)
      | _, _ => pure result
    if result matches .error .endless then throw .endless
    runJobs fuel others
    match result with
    | .ok status => return status
    | .error interrupt => throw interrupt

/-- Does something as a process that is a copy of another: only the signals that are to do
    nothing still do nothing. -/
def asSubshell : Nat → Run Nat → Run Nat
  | 0, _ => throw .endless
  | fuel + 1, run =>
    toEnd fuel do
      update fun process => { process with
        traps := process.traps.filter (·.2.isEmpty)
        isLast := false }
      run

/-- Looks for a program and runs it with the variables that it is told about.  Without a
    program there is only a status. -/
def callProgram : Nat → List Char → List (List Char) → Run (Option Ending)
  | 0, _, _ => return some .endless
  | fuel + 1, name, arguments => do
    let bindings ← exports
    let path := Text.ofOctets name
    let found := Executable.ofName (← files) (← process).directory
      (Executable.searchPathOf bindings) path (arguments.map Text.ofOctets)
    match found with
    | .ok executable =>
      if executable.program = "sleep" then runJobs fuel 0
      return some (← runProgram fuel executable bindings)
    | .error .notExecutableFormat =>
      return some
        (← runProgram fuel ⟨"sh", path, path :: arguments.map Text.ofOctets⟩ bindings)
    | .error error =>
      let (reason, status) := Utility.refusal error
      let reason := if name.isEmpty then "Permission denied" else reason
      complain (name ++ Text.octetsOf s!": {reason}")
      let _ ← record status
      return none

/-- Runs a program as a new process with the channels and the directory of this one. -/
def runProgram : Nat → Executable → Variables → Run Ending
  | 0, _, _ => return .endless
  | fuel + 1, executable, bindings => do
    modify fun state => { state with world.lastProcess := state.world.lastProcess + 1 }
    let number := (← get).world.lastProcess
    let result ← inCopy do
      update fun process => {
        number
        name := Text.octets executable.name
        bindings := Process.shellVariables bindings process.directory process.number
        directory := process.directory
        channels := process.channels
        mask := process.mask }
      let arguments := executable.arguments.map Text.octets
      match executable.program with
      | "sh" => toEnd fuel (runShell fuel false arguments)
      | "awk" | "mawk" =>
        let call (command : List Char) : Run Nat :=
          runCommand fuel "awk" bindings "/bin/sh".toList ["-c".toList, command]
        let caller := Utility.lastPart (Text.octets executable.name)
        written "awk" (Utility.records call fuel caller bindings arguments)
      | "env" => runEnv fuel bindings arguments
      | "find" =>
        let call (words : List (List Char)) : Run Nat :=
          runCommand fuel "find" bindings (words.headD []) words.tail
        Utility.find call arguments
      | "xargs" => runForItems fuel bindings arguments
      | name =>
        match Utility.program? name with
        | some utility =>
          update fun process => { process with
            bindings := bindings.map fun (name, value) =>
              (name, { value := some (Text.octets value), exported := true }) }
          written name (utility arguments)
        | none => return 127
    return .ofResult result

/-- Runs a shell: on a text behind `-c`, on a file, or on what it can read. -/
def runShell : Nat → Bool → List (List Char) → Run Nat
  | 0, _, _ => throw .endless
  | fuel + 1, hasText, arguments => do
    match arguments with
    | ['-', '-'] :: rest => runScript fuel hasText rest
    | ['-'] :: rest => runScript fuel hasText rest
    | (sign :: letter :: letters) :: rest =>
      if sign ≠ '-' ∧ sign ≠ '+' then runScript fuel hasText arguments
      else
        let more := if letters.isEmpty then [] else [sign :: letters]
        match letter, rest with
        | 'c', _ => runShell fuel true (more ++ rest)
        | 'o', name :: rest =>
          match Utility.setNamedOption? (String.ofList name) (sign = '-') (← process) with
          | some changed =>
            update fun _ => changed
            runShell fuel hasText (more ++ rest)
          | none => refuse ("Illegal option ".toList ++ [sign, 'o', ' '] ++ name)
        | _, _ =>
          match Utility.setOption? letter (sign = '-') (← process) with
          | some changed =>
            update fun _ => changed
            runShell fuel hasText (more ++ rest)
          | none => refuse ("Illegal option ".toList ++ [sign, letter])
    | _ => runScript fuel hasText arguments

/-- Carries out the script of a shell. -/
def runScript : Nat → Bool → List (List Char) → Run Nat
  | 0, _, _ => throw .endless
  | fuel + 1, hasText, arguments => do
    if hasText then
      match arguments with
      | [] => refuse "-c requires an argument".toList
      | script :: rest =>
        if let name :: arguments := rest then
          update fun process => { process with name, arguments }
        executeScript fuel true script
    else
      match arguments, (← process).has 's' with
      | path :: arguments, false =>
        match ← script? (Text.ofOctets path) with
        | some script =>
          update fun process => { process with name := path, arguments }
          executeScript fuel false script
        | none => refuse ("cannot open ".toList ++ path ++ ": No such file".toList)
      | arguments, _ =>
        update fun process => { process with arguments }
        executeScript fuel false (← readAll 0)

/-- Runs a program with some more variables, or shows the variables. -/
def runEnv : Nat → Variables → List (List Char) → Run Nat
  | 0, _, _ => throw .endless
  | fuel + 1, bindings, arguments => do
    match arguments with
    | [] =>
      bindings.forM fun (name, value) =>
        write 1 (Text.octetsOf name ++ '=' :: Text.octets value ++ ['\n'])
      return 0
    | ['-', 'i'] :: rest => runEnv fuel [] rest
    | ['-', 'u'] :: name :: rest => runEnv fuel (bindings.erase (String.ofList name)) rest
    | first :: rest =>
      match Utility.splitAssignment first with
      | (name, some value) => runEnv fuel (bindings.set name (Text.ofOctets value)) rest
      | _ => runCommand fuel "env" bindings first rest

/-- Runs a program for another one in whose place it stands. -/
def runCommand : Nat → String → Variables → List Char → List (List Char) → Run Nat
  | 0, _, _, _, _ => throw .endless
  | fuel + 1, program, bindings, name, arguments => do
    let found := Executable.ofName (← files) (← process).directory
      (Executable.searchPathOf bindings) (Text.ofOctets name) (arguments.map Text.ofOctets)
    match found with
    | .ok executable =>
      match ← runProgram fuel executable bindings with
      | .exited status => return status
      | .killed signal => throw (.killed signal)
      | .endless => throw .endless
    | .error .permissionDenied =>
      Utility.object program ("'".toList ++ name ++ "': Permission denied".toList)
      return 126
    | .error _ =>
      Utility.object program ("'".toList ++ name ++ "': No such file or directory".toList)
      return 127

/-- Runs a program with what has been read as further arguments. -/
def runForItems : Nat → Variables → List (List Char) → Run Nat
  | 0, _, _ => throw .endless
  | fuel + 1, bindings, arguments => do
    match Filter.Arguments.parse Utility.itemOptions arguments with
    | .error misuse => Utility.misused "xargs" 1 misuse.message
    | .ok parsed => do
      match Utility.callsFor parsed (← readAll 0) with
      | .ok calls => runCalls fuel bindings (parsed.has 't') calls 0
      | .error quote =>
        let kind := if quote = '"' then "double" else "single"
        Utility.object "xargs" ("unmatched ".toList ++ kind.toList
          ++ " quote; by default quotes are special to xargs unless you use ".toList
          ++ "the -0 option".toList)
        return 1

/-- Runs programs one after the other, and shows each of them before if `shows` is set.  The
    status tells whether one of them has failed. -/
def runCalls : Nat → Variables → Bool → List (List (List Char)) → Nat → Run Nat
  | 0, _, _, _, _ => throw .endless
  | _, _, _, [], status => return status
  | fuel + 1, bindings, shows, call :: calls, status => do
    let channels := (← process).channels
    if shows then write 2 ([' '].intercalate call ++ ['\n'])
    join 0 (.device .null)
    let result ← runCommand fuel "xargs" bindings (call.headD []) call.tail
    update fun process => { process with channels }
    if result = 126 ∨ result = 127 then return result
    else if result = 255 then return 124
    else runCalls fuel bindings shows calls (if result = 0 then status else 123)

end

end TestCoverage.Shell
