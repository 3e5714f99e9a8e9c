/-
  TestCoverage.Shell.BuiltIn

  Commands that belong to the language and call no others.

  They change the process that calls them: its variables, its directory, its options, and
  how it goes on.
-/
import TestCoverage.Shell.Fields
import TestCoverage.Shell.OptionLetters
import TestCoverage.Shell.Utility

namespace TestCoverage.Shell

namespace Utility

open Run

/-! ## Names and values -/

/-- A text between quotes, from which a script reads it again. -/
def quoted (text : List Char) : List Char :=
  let isQuote (c : Char) : Bool := c == '\u0027'
  let runs := text.splitBy fun a b => isQuote a == isQuote b
  let shown := runs.map fun run =>
    if run.head?.any isQuote then '"' :: run ++ ['"'] else '\u0027' :: run ++ ['\u0027']
  (if text.isEmpty ∨ text.head?.any isQuote then ['\u0027', '\u0027'] else []) ++ shown.flatten

/-- Texts in order. -/
def inOrder {α : Type} (entries : Entries α) : Entries α :=
  entries.mergeSort fun a b => !decide (b.1 < a.1)

/-- Lists the variables of a kind behind a word. -/
def listVariables (word : String) (kind : Variable → Bool) : Run Unit := do
  let shown := (← process).bindings.filter fun (_, v) => kind v
  (inOrder shown).forM fun (name, v) =>
    let value := match v.value with
      | some value => '=' :: quoted value
      | none => []
    write 1 (word.toList ++ name.toList ++ value ++ ['\n'])

/-- The text has to be a name. -/
def checkName (name : String) : Run Unit := do
  if !Reader.isName name.toList then fail (name.toList ++ ": bad variable name".toList)

/-! ## Reading lines -/

/-- A line without its backslashes, which join it to the next line or take away the meaning
    of the next character, and what stands behind it; true if there was a line end. -/
def continued : List Char → List Mark × List Char × Bool
  | [] => ([], [], false)
  | '\n' :: rest => ([], rest, true)
  | '\\' :: '\n' :: rest => continued rest
  | '\\' :: c :: rest =>
    let (line, rest, ended) := continued rest
    (.quoted c :: line, rest, ended)
  | c :: rest =>
    let (line, rest, ended) := continued rest
    (.expanded c :: line, rest, ended)

/-- A line as it stands, and what stands behind it; true if there was a line end. -/
def rawLine (text : List Char) : List Mark × List Char × Bool :=
  ((text.takeWhile (· ≠ '\n')).map .expanded, (text.dropWhile (· ≠ '\n')).drop 1,
    text.contains '\n')

/-- The mark separates fields. -/
def separates (separators : List Char) : Mark → Bool
  | .expanded c => c ∈ separators
  | _ => false

/-- The mark is white space that separates fields. -/
def isGap (separators : List Char) (mark : Mark) : Bool :=
  separates separators mark
    && (mark == .expanded ' ' || mark == .expanded '\t' || mark == .expanded '\n')

/-- The fields of a line for so many variables.  The last one takes all that is left. -/
def distribute (separators : List Char) : Nat → List Mark → List (List Char)
  | 0, _ => []
  | 1, line =>
    let line := line.dropWhile (isGap separators)
    [Mark.text (line.reverse.dropWhile (isGap separators)).reverse]
  | count + 2, line =>
    let line := line.dropWhile (isGap separators)
    let field := line.takeWhile (!separates separators ·)
    let rest := (line.drop field.length).dropWhile (isGap separators)
    let rest := match rest with
      | mark :: behind => if separates separators mark then behind else rest
      | [] => []
    Mark.text field :: distribute separators (count + 1) rest

/-- Reads a line into variables. -/
def read : Utility := fun arguments => do
  let parsed ← optionsOf ['r'] ['p'] arguments
  let names := parsed.operands.map String.ofList
  if names.isEmpty then fail "arg count".toList
  let text ← unread 0
  let (line, rest, ended) := if parsed.has 'r' then rawLine text else continued text
  leaveUnread 0 rest
  let values := distribute (← separators) names.length line
  (names.zip values).forM fun (name, value) => do
    checkName name
    assign name value
  return statusOf ended

/-! ## Directories -/

/-- The path says where it begins: at the root, or at the directory of the process. -/
def saysStart (target : List Char) : Bool :=
  let first := target.takeWhile (· ≠ '/')
  first.isEmpty || first == ['.'] || first == ['.', '.']

/-- The place of a directory that a path leads to, and whether it is to be shown.  A path that
    does not say where it begins is tried behind other paths first.  Links that lead to the
    place are kept in its path, unless it is to be `physical`. -/
def directoryNamed? (physical : Bool) (target : List Char) : Run (Option (Location × Bool)) := do
  let listed := Text.pieces ':' ((← valueOf? "CDPATH").getD [])
  let bases := if saysStart target then [[]] else listed ++ [[]]
  let files ← files
  let directory := (← process).directory
  let found := bases.findSome? fun base =>
    let named := path (if base.isEmpty then target else base ++ '/' :: target)
    let place := directory.named named
    let found := if physical then files.find directory named
      else files.find [] (path (pathOf place))
    match found with
    | .ok (location, .directory _) => some (if physical then location else place, !base.isEmpty)
    | _ => none
  return found

/-- Goes to another directory. -/
def cd : Utility := fun arguments => do
  let parsed ← optionsOf ['L', 'P'] [] arguments
  let home := (← valueOf? "HOME").getD []
  let old := (← valueOf? "OLDPWD").getD []
  let goesBack := parsed.operands.head? = some ['-']
  let target := if goesBack then old else parsed.operands.headD home
  let physical := parsed.last? ['L', 'P'] == some 'P'
  match ← directoryNamed? physical (if target.isEmpty then ['.'] else target) with
  | some (location, isShown) =>
    let before := pathOf (← process).directory
    update fun process => { process with directory := location }
    assign "OLDPWD" before
    exportName "OLDPWD"
    assign "PWD" (pathOf location)
    exportName "PWD"
    if isShown ∨ goesBack then write 1 (pathOf location ++ ['\n'])
    return 0
  | none => fail ("can't cd to ".toList ++ target)

/-! ## Variables and functions -/

/-- Does something with each name that arguments give, and gives it a value if there is one.
    Without names variables of a kind are listed. -/
def forNames (word : String) (kind : Variable → Bool) (act : String → Run Unit) : Utility :=
  fun arguments => do
    let parsed ← optionsOf ['p'] [] arguments
    if parsed.operands.isEmpty ∨ parsed.has 'p' then listVariables word kind
    else
      parsed.operands.forM fun argument => do
        let (name, value) := splitAssignment argument
        checkName name
        if let some value := value then assign name value
        act name
    return 0

/-- Tells other programs about variables. -/
def exportNames : Utility :=
  forNames "export " (·.exported) exportName

/-- Keeps the values of variables for good. -/
def readonly : Utility :=
  forNames "readonly " (·.fixed) fix

/-- Makes variables local to the function that runs. -/
def local' : Utility := fun arguments => do
  match (← process).saved with
  | none => fail "not in a function".toList
  | some _ =>
    arguments.forM fun argument => do
      let (name, value) := splitAssignment argument
      checkName name
      let old := (← process).bindings.get? name
      update fun process => { process with saved := process.saved.map ((name, old) :: ·) }
      if let some value := value then assign name value
    return 0

/-- Forgets variables or functions. -/
def unset : Utility := fun arguments => do
  let parsed ← optionsOf ['v', 'f'] [] arguments
  parsed.operands.forM fun argument => do
    let name := String.ofList argument
    if parsed.has 'f' then
      update fun process => { process with functions := process.functions.erase name }
    else
      checkName name
      changeVariable name id
      update fun process => { process with bindings := process.bindings.erase name }
  return 0

/-- Gives other names to words, or lists such names. -/
def alias' : Utility := fun arguments => do
  let show' (name : String) (value : List Char) : Run Unit :=
    write 1 (name.toList ++ '=' :: quoted value ++ ['\n'])
  if arguments.isEmpty then (inOrder (← process).aliases).forM fun (name, value) => show' name value
  let statuses ← arguments.mapM fun argument => do
    match splitAssignment argument with
    | (name, some value) =>
      update fun process => { process with aliases := process.aliases.set name value }
      return 0
    | (name, none) =>
      match (← process).aliases.get? name with
      | some value => do
        show' name value
        return 0
      | none => do
        write 2 ("alias: ".toList ++ argument ++ " not found\n".toList)
        return 1
  return statusOf (statuses.all (· = 0))

/-- Forgets other names of words. -/
def unalias : Utility := fun arguments => do
  let parsed ← optionsOf ['a'] [] arguments
  if parsed.has 'a' then
    update fun process => { process with aliases := [] }
    return 0
  else
    let statuses ← parsed.operands.mapM fun argument => do
      let name := String.ofList argument
      if ((← process).aliases.get? name).isSome then
        update fun process => { process with aliases := process.aliases.erase name }
        return 0
      else
        write 2 ("unalias: ".toList ++ argument ++ " not found\n".toList)
        return 1
    return statusOf (statuses.all (· = 0))

/-! ## Arguments of the script -/

/-- Drops the first arguments. -/
def shift : Utility := fun arguments => do
  let count ← numberFrom (arguments.headD ['1'])
  if (← process).arguments.length < count then fail "can't shift that many".toList
  update fun process => { process with arguments := process.arguments.drop count }
  return 0

/-- Reads an option of the script. -/
def getopts : Utility := fun arguments => do
  match arguments with
  | description :: name :: given => do
    let process ← process
    let given := if given.isEmpty then process.arguments else given
    let next := ((← valueOf? "OPTIND").bind number?).getD 1
    let read := OptionRead.read description given ⟨max next 1, process.optionPlace⟩
    if !read.complaint.isEmpty then write 2 (read.complaint ++ ['\n'])
    match read.value, read.isEnd with
    | some value, _ => assign "OPTARG" value
    | none, false => update fun process =>
        { process with bindings := process.bindings.erase "OPTARG" }
    | none, true => pure ()
    assign "OPTIND" (Nat.toDigits 10 read.place.next)
    update fun process => { process with optionPlace := read.place.offset }
    checkName (String.ofList name)
    assign (String.ofList name) [read.letter]
    return statusOf (!read.isEnd)
  | _ => fail "Usage: getopts optstring var [arg...]".toList

/-! ## Options of the process -/

/-- The options: their names and their letters, if they have one. -/
def options : List (String × Option Char) := [
  ("errexit", some 'e'), ("noglob", some 'f'), ("ignoreeof", some 'I'),
  ("interactive", some 'i'), ("monitor", some 'm'), ("noexec", some 'n'), ("stdin", some 's'),
  ("xtrace", some 'x'), ("verbose", some 'v'), ("vi", some 'V'), ("emacs", some 'E'),
  ("noclobber", some 'C'), ("allexport", some 'a'), ("notify", some 'b'),
  ("nounset", some 'u'), ("privileged", none), ("nolog", none), ("debug", none)]

/-- The letters of the options that are on, as a parameter shows them. -/
def optionLetters (process : Process) : List Char :=
  (options.filterMap (·.2)).reverse.filter process.has

/-- Turns the option of a letter on or off, if there is one. -/
def setOption? (letter : Char) (on : Bool) (process : Process) : Option Process :=
  if options.any (·.2 = some letter) then
    let others := process.options.filter (· ≠ letter)
    some { process with options := if on then letter :: others else others }
  else none

/-- Turns an option that is given by name on or off, if there is one. -/
def setNamedOption? (name : String) (on : Bool) (process : Process) : Option Process :=
  match (options.find? (·.1 = name)).map (·.2) with
  | some (some letter) => setOption? letter on process
  | some none => some process
  | none => none

/-- Lists the options: whether each is on, or how it is set. -/
def listOptions (on : Bool) : Run Unit := do
  let process ← process
  if on then write 1 "Current option settings\n".toList
  options.forM fun (name, letter) => do
    let isOn := letter.any process.has
    if on then
      let gap := List.replicate (16 - name.length) ' '
      write 1 (name.toList ++ gap ++ (if isOn then "on\n" else "off\n").toList)
    else write 1 ((if isOn then "set -o " else "set +o ").toList ++ name.toList ++ ['\n'])

/-- Sets options and arguments.  The first part of the arguments may be options; none of them
    means that no arguments are set. -/
def setArguments : List (List Char) → Run Nat
  | [] => return 0
  | ['-', '-'] :: arguments => do
    update fun process => { process with arguments }
    return 0
  | ['-'] :: arguments => do
    update fun process =>
      { process with options := process.options.filter fun c => c ≠ 'x' ∧ c ≠ 'v' }
    if !arguments.isEmpty then update fun process => { process with arguments }
    return 0
  | [sign, 'o'] :: name :: rest => do
    if sign = '-' ∨ sign = '+' then
      match setNamedOption? (String.ofList name) (sign = '-') (← process) with
      | some changed => update fun _ => changed
      | none => fail ("Illegal option ".toList ++ [sign, 'o', ' '] ++ name)
      setArguments rest
    else
      update fun process => { process with arguments := [sign, 'o'] :: name :: rest }
      return 0
  | [['-', 'o']] => do
    listOptions true
    return 0
  | [['+', 'o']] => do
    listOptions false
    return 0
  | (sign :: letter :: letters) :: rest => do
    if sign = '-' ∨ sign = '+' then
      (letter :: letters).forM fun letter => do
        match setOption? letter (sign = '-') (← process) with
        | some changed => update fun _ => changed
        | none => fail ("Illegal option ".toList ++ [sign, letter])
      setArguments rest
    else
      update fun process => { process with arguments := (sign :: letter :: letters) :: rest }
      return 0
  | arguments => do
    update fun process => { process with arguments }
    return 0

/-- Sets options and arguments, or lists all variables. -/
def set : Utility := fun arguments => do
  if arguments.isEmpty then
    listVariables "" (·.value.isSome)
    return 0
  else setArguments arguments

/-! ## Control -/

/-- The status that an argument names, or that of the last command. -/
def statusFrom (arguments : List (List Char)) : Run Nat := do
  match arguments with
  | [] => return (← process).status
  | argument :: _ => numberFrom argument

/-- Ends the process. -/
def exit : Utility := fun arguments => do
  throw (.exit ((← statusFrom arguments) % 256))

/-- Ends a function. -/
def back : Utility := fun arguments => do
  throw (.back (← statusFrom arguments))

/-- The number of loops that arguments name: one or more, but no more than there are. -/
def loopsFrom (arguments : List (List Char)) : Run Nat := do
  let count ← numberFrom (arguments.headD ['1'])
  if count = 0 then fail ("Illegal number: ".toList ++ arguments.headD [])
  return min count (← process).loops

/-- Ends loops.  Outside of loops it does nothing. -/
def leave : Utility := fun arguments => do
  let loops ← loopsFrom arguments
  if loops = 0 then return 0 else throw (.leave loops)

/-- Goes on with the next round of a loop.  Outside of loops it does nothing. -/
def again : Utility := fun arguments => do
  let loops ← loopsFrom arguments
  if loops = 0 then return 0 else throw (.again loops)

/-! ## Signals -/

/-- Signals: their names, their numbers, and what they are called. -/
def signals : List (String × Nat × String) := [
  ("HUP", 1, "Hangup"), ("INT", 2, "Interrupt"), ("QUIT", 3, "Quit"),
  ("ILL", 4, "Illegal instruction"), ("TRAP", 5, "Trace/breakpoint trap"),
  ("ABRT", 6, "Aborted"), ("BUS", 7, "Bus error"), ("FPE", 8, "Floating point exception"),
  ("KILL", 9, "Killed"), ("USR1", 10, "User defined signal 1"),
  ("SEGV", 11, "Segmentation fault"), ("USR2", 12, "User defined signal 2"),
  ("PIPE", 13, "Broken pipe"), ("ALRM", 14, "Alarm clock"), ("TERM", 15, "Terminated"),
  ("16", 16, "Stack fault"), ("CHLD", 17, "Child exited"), ("CONT", 18, "Continued"),
  ("STOP", 19, "Stopped (signal)"), ("TSTP", 20, "Stopped"), ("TTIN", 21, "Stopped (tty input)"),
  ("TTOU", 22, "Stopped (tty output)"), ("URG", 23, "Urgent I/O condition"),
  ("XCPU", 24, "CPU time limit exceeded"), ("XFSZ", 25, "File size limit exceeded"),
  ("VTALRM", 26, "Virtual timer expired"), ("PROF", 27, "Profiling timer expired"),
  ("WINCH", 28, "Window changed"), ("IO", 29, "I/O possible"), ("PWR", 30, "Power failure"),
  ("SYS", 31, "Bad system call"), ("32", 32, "Unknown signal 32"), ("33", 33, "Unknown signal 33")]

/-- The greatest number of a signal. -/
def lastSignal : Nat := 64

/-- The names of the signals that have no use of their own. -/
def freeSignals : List (String × Nat) :=
  (List.range 31).map fun i =>
    let name := if i = 0 then "RTMIN" else if i < 16 then s!"RTMIN+{i}"
      else if i < 30 then s!"RTMAX-{30 - i}" else "RTMAX"
    (name, 34 + i)

/-- Signals that do nothing to a process that does not wait for them. -/
def harmless : List Nat := [0, 17, 18, 23, 28]

/-- The name of a signal. -/
def signalName (n : Nat) : String :=
  if n = 0 then "EXIT"
  else
    match signals.find? (·.2.1 = n), freeSignals.find? (·.2 = n) with
    | some (name, _), _ | none, some (name, _) => name
    | none, none => toString n

/-- The number of a signal that is named, or numbered. -/
def signal? (text : List Char) : Option Nat :=
  match number? text with
  | some n => if n ≤ lastSignal then some n else none
  | none =>
    let name := String.ofList (text.map Char.toUpper)
    ((List.range lastSignal).find? fun i => signalName (i + 1) = name).map (· + 1)

/-- The text about a program that a signal has ended, unless there is nothing to be said. -/
def signalText? (n : Nat) : Option String :=
  if n = 2 ∨ n = 13 then none else (signals.find? (·.2.1 = n)).map (·.2.2)

/-- The number of a signal that something is to be done about; zero is the end of the
    process. -/
def trapSignal? (text : List Char) : Option Nat :=
  if text.map Char.toUpper = "EXIT".toList then some 0 else signal? text

/-- Lists what is to be done when signals come. -/
def listTraps : Run Unit := do
  let traps := (← process).traps
  (List.range (lastSignal + 1)).forM fun n => do
    if let some action := traps.get? (toString n) then
      write 1 ("trap -- ".toList ++ quoted action ++ ' ' :: (signalName n).toList ++ ['\n'])

/-- Sets what is to be done about signals, up to the first that is none. -/
def setTraps (action : List Char) : List (List Char) → Run Nat
  | [] => return 0
  | name :: names => do
    match trapSignal? name with
    | none =>
      write 2 ("trap: ".toList ++ name ++ ": bad trap\n".toList)
      return 1
    | some n =>
      update fun process =>
        let traps := if action = ['-'] then process.traps.erase (toString n)
          else process.traps.set (toString n) action
        { process with traps }
      setTraps action names

/-- Says what is to be done when signals come. -/
def trap : Utility := fun arguments => do
  match (← optionsOf [] [] arguments).operands with
  | [] =>
    listTraps
    return 0
  | [name] => setTraps ['-'] [name]
  | action :: names => setTraps action names

/-! ## Limits -/

/-- A number with so many octal digits. -/
def octalText (places n : Nat) : List Char :=
  let digits := Nat.toDigits 8 n
  List.replicate (places - digits.length) '0' ++ digits

/-- The rights that a mask leaves. -/
def rightsText (mask : Nat) : List Char :=
  let ofClass (name : Char) (unit : Nat) : List Char :=
    let bits := 7 - mask / unit % 8
    [name, '='] ++ (if bits / 4 % 2 = 1 then ['r'] else []) ++
      (if bits / 2 % 2 = 1 then ['w'] else []) ++ (if bits % 2 = 1 then ['x'] else [])
  [','].intercalate [ofClass 'u' 64, ofClass 'g' 8, ofClass 'o' 1] ++ ['\n']

/-- The mask without some rights, or with them, for the classes of users that are named. -/
def maskBy (mask : Nat) (clause : List Char) : Nat :=
  let users := clause.takeWhile fun c => c ∈ ['u', 'g', 'o', 'a']
  let bitOf (c : Char) : Nat := match c with
    | 'r' => 4
    | 'w' => 2
    | 'x' => 1
    | _ => 0
  match clause.drop users.length with
  | sign :: rights =>
    let bits := rights.foldl (fun n c => n ||| bitOf c) 0
    let isMeant (user : Char) : Bool := users.isEmpty || users.contains 'a' || users.contains user
    let changed (user : Char) (old : Nat) : Nat :=
      if !isMeant user then old
      else
        match sign with
        | '=' => 7 - bits
        | '+' => old &&& (7 - bits)
        | '-' => old ||| bits
        | _ => old
    changed 'u' (mask / 64 % 8) * 64 + changed 'g' (mask / 8 % 8) * 8 + changed 'o' (mask % 8)
  | [] => mask

/-- Shows or sets which rights new files do not get. -/
def umask : Utility := fun arguments => do
  let parsed ← optionsOf ['S'] [] arguments
  match parsed.operands with
  | [] => do
    let mask := (← process).mask
    write 1 (if parsed.has 'S' then rightsText mask else octalText 4 mask ++ ['\n'])
    return 0
  | text :: _ => do
    if text.head?.any Char.isDigit then
      if !text.all Format.isOctal then fail ("Illegal number: ".toList ++ text)
      update fun process => { process with mask := Expression.ofDigits 8 text % 512 }
    else
      update fun process =>
        { process with mask := (Text.pieces ',' text).foldl maskBy process.mask }
    return 0

/-- Shows limits, of which there are none, or does as if it set them. -/
def ulimit : Utility := fun arguments => do
  let letters := ['H', 'S', 'a', 't', 'f', 'd', 's', 'c', 'm', 'l', 'p', 'n', 'v', 'w', 'r']
  let parsed ← optionsOf letters [] arguments
  match parsed.operands with
  | [] =>
    say 1 "unlimited\n"
    return 0
  | text :: _ =>
    if text ≠ "unlimited".toList ∧ (number? text).isNone then fail "bad number".toList
    return 0

/-- Shows how much time has been used: none. -/
def times : Utility := fun _ => do
  say 1 "0m0.000000s 0m0.000000s\n0m0.000000s 0m0.000000s\n"
  return 0

/-! ## All of them -/

/-- Commands that belong to the language.  A mistake in one of them ends a script. -/
def special? : String → Option Utility
  | ":" => some (idle 0)
  | "break" => some leave
  | "continue" => some again
  | "exit" => some exit
  | "export" => some exportNames
  | "local" => some local'
  | "readonly" => some readonly
  | "return" => some back
  | "set" => some set
  | "shift" => some shift
  | "times" => some times
  | "trap" => some trap
  | "unset" => some unset
  | _ => none

/-- Commands that need not be looked for. -/
def builtIn? : String → Option Utility
  | "[" => some bracket
  | "alias" => some alias'
  | "cd" | "chdir" => some cd
  | "echo" => some echo
  | "false" => some (idle 1)
  | "getopts" => some getopts
  | "printf" => some printf
  | "pwd" => some (pwd false)
  | "read" => some read
  | "test" => some test
  | "true" => some (idle 0)
  | "ulimit" => some ulimit
  | "umask" => some umask
  | "unalias" => some unalias
  | _ => none

end Utility
end TestCoverage.Shell
