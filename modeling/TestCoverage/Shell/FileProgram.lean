/-
  TestCoverage.Shell.FileProgram

  Programs that make, change and remove files.
-/
import TestCoverage.Files.Rights
import TestCoverage.Shell.Filters

namespace TestCoverage.Shell

namespace Utility

open Run TestCoverage.Filter

/-! ## Paths -/

/-- A path without separators at its end. -/
def withoutSlashes (path : List Char) : List Char :=
  let shorter := (path.reverse.dropWhile (· = '/')).reverse
  if shorter.isEmpty ∧ ¬ path.isEmpty then ['/'] else shorter

/-- The last part of a path. -/
def lastPart (path : List Char) : List Char :=
  let path := withoutSlashes path
  if path = ['/'] then path else (path.reverse.takeWhile (· ≠ '/')).reverse

/-- The path of what the last part of a path is in. -/
def parentOf (path : List Char) : List Char :=
  let path := withoutSlashes path
  if path = ['/'] then path
  else if path.contains '/' then withoutSlashes (path.reverse.dropWhile (· ≠ '/')).reverse
  else ['.']

/-- Why the node that a program wants to make cannot be made, if something is there. -/
def fileExists : String := "File exists"

/-- Does something with the place of each path.  The status tells whether it worked for all,
    and a message why it did not, with the path behind a complaint and a purpose behind the
    path.  A link at the end is entered if that is asked for. -/
def forPlaces (complaint : String) (entersLast : Bool) (operands : List (List Char))
    (act : Location → Option Node → Run (Option String)) (purpose : String := "") :
    Run Nat := do
  let failures ← operands.mapM fun operand => do
    let place := (← files).locateFrom entersLast (← process).directory (path operand)
    let failure ← match place with
      | .ok location => act location ((← files).node? location)
      | .error error => pure (some (describe error))
    if let some reason := failure then
      write 2 (Text.octetsOf s!"{complaint} " ++ Quoting.name operand
        ++ Text.octetsOf s!"{purpose}: {reason}\n")
    return failure
  return statusOf (failures.all Option.isNone)

/-- A program with options and at least one operand. -/
def withOperands (program : String) (known : Options) (run : Arguments → Run Nat) : Utility :=
  withOptions program 1 known fun arguments =>
    if arguments.operands.isEmpty then misused program 1 "missing operand".toList
    else run arguments

/-- Writes that something has been done to a path, if that is to be told. -/
def tell (arguments : Arguments) (deed : String) (operand : List Char) : Run Unit :=
  if arguments.has 'v' then write 1 (deed.toList ++ ' ' :: Quoting.name operand ++ ['\n'])
  else return

/-! ## Making and removing -/

/-- The options of `touch`. -/
def touchOptions : Options where
  flags := ['a', 'c', 'm', 'f', 'h']
  valued := ['d', 'r', 't']
  names := [("no-create", 'c'), ("date", 'd'), ("reference", 'r')]

/-- Makes files that are not there. -/
def touch : Utility :=
  withOptions "touch" 1 touchOptions fun arguments =>
    if arguments.operands.isEmpty then misused "touch" 1 "missing file operand".toList
    else
      forPlaces "touch: cannot touch" true arguments.operands fun location node? => do
        if node?.isNone ∧ ¬ arguments.has 'c' then setContents location []
        return none

/-- The paths that lead to a path, and it itself. -/
def pathsTo (operand : List Char) : List (List Char) :=
  let parts := Text.pieces '/' operand
  let ends := (List.range parts.length).map fun i => ['/'].intercalate (parts.take (i + 1))
  ends.filter (!·.isEmpty)

/-- Makes a directory with the given rights.  With `keeps` it may be there already. -/
def makeDirectory (keeps : Bool) (rights : Rights) (made : Run Unit) (location : Location)
    (node? : Option Node) : Run (Option String) := do
  match node? with
  | none =>
    updateFiles fun files => files.put location (.directory rights)
    made
    return none
  | some (.directory _) => return if keeps then none else some fileExists
  | some _ => return some fileExists

/-- The options of `mkdir`. -/
def mkdirOptions : Options where
  flags := ['p', 'v']
  valued := ['m']
  names := [("parents", 'p'), ("mode", 'm'), ("verbose", 'v')]

/-- Makes directories. -/
def mkdir : Utility :=
  withOperands "mkdir" mkdirOptions fun arguments => do
    let complaint := "mkdir: cannot create directory"
    let made := tell arguments "mkdir: created directory"
    let usual := Rights.without 0o777 (← process).mask
    match (arguments.value? 'm').mapM (Rights.change? true 0 0o777) with
    | none =>
      object "mkdir" ("invalid mode ".toList ++ inQuotes ((arguments.value? 'm').getD []))
      return 1
    | some given =>
      let rights := given.getD usual
      let statuses ← arguments.operands.mapM fun operand => do
        let above := if arguments.has 'p' then (pathsTo operand).dropLast else []
        let statuses ← above.mapM fun part =>
          forPlaces complaint true [part] (makeDirectory true usual (made part))
        if statuses.any (· ≠ 0) then return 1
        forPlaces complaint (arguments.has 'p') [operand]
          (makeDirectory (arguments.has 'p') rights (made operand))
      return statusOf (statuses.all (· = 0))

/-- The options of `rm`. -/
def rmOptions : Options where
  flags := ['f', 'r', 'R', 'i', 'I', 'd', 'v']
  names := [("force", 'f'), ("recursive", 'r'), ("dir", 'd'), ("verbose", 'v')]

/-- Takes away what is at a place. -/
def removeAt (location : Location) : Run Unit :=
  updateFiles fun files => files.remove location

/-- Something is there to which the path leads. -/
def isThere (operand : List Char) : Run Bool := do
  return ((← files).find (← process).directory (path operand)).toOption.isSome

/-- The paths of what is below a place, what is deeper first, and whether it is a
    directory. -/
def pathsBelow (files : Files) : Nat → List Char → Location → List (List Char × Bool)
  | 0, _, _ => []
  | depth + 1, name, location =>
    (files.namesIn location).flatMap fun part =>
      let path := name ++ '/' :: Text.octets part
      let place := location ++ [part]
      let isDirectory := ((files.node? place).map Node.isDirectory).getD false
      (if isDirectory then pathsBelow files depth path place else []) ++ [(path, isDirectory)]

/-- How deep directories may be nested. -/
def maxNesting : Nat := 4096

/-- The last part of the path is a dot or two. -/
def endsWithDots (operand : List Char) : Bool :=
  lastPart operand == ['.'] || lastPart operand == ['.', '.']

/-- Takes files away. -/
def rm : Utility :=
  withOptions "rm" 1 rmOptions fun arguments => do
    let forced := arguments.has 'f'
    let recursive := arguments.has 'r' || arguments.has 'R'
    if arguments.operands.isEmpty then
      if forced then return 0 else misused "rm" 1 "missing operand".toList
    else
      let statuses ← arguments.operands.mapM fun operand => do
        if recursive ∧ endsWithDots operand ∧ (← isThere operand) then
          object "rm" ("refusing to remove '.' or '..' directory: skipping ".toList
            ++ Quoting.name operand)
          return 1
        forPlaces "rm: cannot remove" false [operand] fun location node? => do
          match node? with
          | some (.file ..) | some (.link _) =>
            removeAt location
            tell arguments "removed" operand
            return none
          | some (.directory _) =>
            if recursive then
              (pathsBelow (← files) maxNesting operand location).forM fun (path, isDirectory) =>
                tell arguments (if isDirectory then "removed directory" else "removed") path
            else if ¬ arguments.has 'd' then return some "Is a directory"
            else if ¬ ((← files).namesIn location).isEmpty then
              return some "Directory not empty"
            removeAt location
            tell arguments "removed directory" operand
            return none
          | some _ => return some "Permission denied"
          | none => return if forced then none else some (describe .notFound)
      return statusOf (statuses.all (· = 0))

/-- Takes empty directories away, and with `-p` those that lead to them too. -/
def rmdir : Utility :=
  withOperands "rmdir" { flags := ['p', 'v'], names := [("parents", 'p'), ("verbose", 'v')] }
    fun arguments => do
      let statuses ← arguments.operands.mapM fun operand => do
        let paths := if arguments.has 'p' then (pathsTo operand).reverse else [operand]
        let statuses ← paths.mapM fun part => do
          tell arguments "rmdir: removing directory," part
          forPlaces "rmdir: failed to remove" false [part] fun location node? => do
            match node? with
            | some (.directory _) =>
              if lastPart part = ['.'] then return some "Invalid argument"
              else if ((← files).namesIn location).isEmpty then
                removeAt location
                return none
              else return some "Directory not empty"
            | some _ => return some "Not a directory"
            | none => return some (describe .notFound)
        return statusOf (statuses.all (· = 0))
      return statusOf (statuses.all (· = 0))

/-! ## Rights -/

/-- The node with other rights, if it has any. -/
def withRights (change : Rights → Rights) : Node → Node
  | .directory rights => .directory (change rights)
  | .file contents rights => .file contents (change rights)
  | node => node

/-- The rights of a node. -/
def rightsOf : Node → Rights
  | .directory rights | .file _ rights => rights
  | .program _ => Rights.ofProgram
  | .device _ => 0o666
  | .link _ => 0o777

/-- The options of `chmod` that come before the mode, and the other arguments. -/
def chmodOptions : List (List Char) → List Char × List (List Char)
  | ['-', '-'] :: rest => ([], rest)
  | ('-' :: letters) :: rest =>
    if letters.all fun c => ['R', 'v', 'c', 'f'].contains c then
      let (more, rest) := chmodOptions rest
      (letters ++ more, rest)
    else ([], ('-' :: letters) :: rest)
  | arguments => ([], arguments)

/-- Changes the mode of files. -/
def chmod : Utility := fun arguments => do
  let (letters, arguments) := chmodOptions arguments
  let mask := (← process).mask
  match arguments with
  | [] => misused "chmod" 1 "missing operand".toList
  | [mode] => misused "chmod" 1 ("missing operand after ".toList ++ inQuotes mode)
  | mode :: operands =>
    if (Rights.change? false mask 0 mode).isNone then
      misused "chmod" 1 ("invalid mode: ".toList ++ inQuotes mode)
    else
      let changed (node : Node) : Node :=
        withRights (fun old => (Rights.change? node.isDirectory mask old mode).getD old) node
      forPlaces "chmod: cannot access" true operands fun location node? => do
        match node? with
        | some node =>
          let isMeant (other : Location) : Bool :=
            other = location || (letters.contains 'R' && location.isPrefixOf other)
          updateFiles fun files =>
            let files := files.put location node
            ⟨files.nodes.map fun (other, node) =>
              (other, if isMeant other then changed node else node)⟩
          return none
        | none => return some (describe .notFound)

/-! ## Reading and writing -/

/-- Writes what is given to the program to files, and hands it on. -/
def tee : Utility :=
  withOptions "tee" 1 { flags := ['a', 'i'], names := [("append", 'a')] } fun arguments => do
    let text ← readAll 0
    write 1 text
    let statuses ← arguments.operands.mapM fun operand => do
      match (← files).locate (← process).directory (path operand) with
      | .error error => do
        object "tee" (cannotRead operand (describe error))
        return 1
      | .ok location =>
        match (← files).node? location with
        | some (.directory _) => do
          object "tee" (cannotRead operand "Is a directory")
          return 1
        | some (.file contents _) =>
          let before := if arguments.has 'a' then contents else []
          setContents location (before ++ Text.ofOctets text)
          return 0
        | some (.device .full) => do
          object "tee" (cannotRead operand "No space left on device")
          return 1
        | _ =>
          setContents location (Text.ofOctets text)
          return 0
    return statusOf (statuses.all (· = 0))

/-- The value of an operand that begins with a name and an equals sign. -/
def setting? (name : String) (arguments : List (List Char)) : Option (List Char) :=
  (arguments.filterMap fun argument =>
    let start := name.toList ++ ['=']
    if start.isPrefixOf argument then some (argument.drop start.length) else none).getLast?

/-- Copies blocks of bytes. -/
def dd : Utility := fun arguments => do
  let size := ((setting? "bs" arguments).bind amount?).getD 512
  let count := (setting? "count" arguments).bind amount?
  let skipped := size * ((setting? "skip" arguments).bind amount?).getD 0
  let wanted := count.map fun n => skipped + n * size
  let source ← match setting? "if" arguments with
    | some name => textAt wanted name
    | none => do
      let text ← unread 0
      leaveUnread 0 (match wanted with
        | some n => text.drop n
        | none => [])
      pure (.ok text)
  match source with
  | .error reason => do
    object "dd" ("failed to open ".toList ++ Quoting.name ((setting? "if" arguments).getD [])
      ++ Text.octetsOf s!": {reason}")
    return 1
  | .ok text => do
    let bytes := text.drop skipped
    let bytes := match count with
      | some n => bytes.take (n * size)
      | none => bytes
    match setting? "of" arguments with
    | none => write 1 bytes
    | some name =>
      if let .ok location := (← files).locate (← process).directory (path name) then
        setContents location (Text.ofOctets bytes)
    let blocks := decimal (bytes.length / size) ++ '+' ::
      (if bytes.length % size = 0 then ['0'] else ['1'])
    if setting? "status" arguments ≠ some "none".toList then
      write 2 (blocks ++ " records in\n".toList ++ blocks ++ " records out\n".toList)
    return 0

end Utility
end TestCoverage.Shell
