/-
  TestCoverage.Shell.Transfer

  Programs that copy and move files, and make links to them.
-/
import TestCoverage.Shell.FileProgram

namespace TestCoverage.Shell

namespace Utility

open Run TestCoverage.Filter

/-! ## Sources and targets -/

/-- A source and the path to which it is brought. -/
structure Transfer where
  source : List Char
  target : List Char

/-- The path of what is in a directory under a name. -/
def pathIn (directory name : List Char) : List Char :=
  if directory.getLast? = some '/' then directory ++ name else directory ++ '/' :: name

/-- The path leads to a directory. -/
def isDirectoryAt (operand : List Char) : Run Bool := do
  match (← files).find (← process).directory (path operand) with
  | .ok (_, node) => return node.isDirectory
  | .error _ => return false

/-- What is to be brought where.  Into a directory everything goes under its own name; more
    than one source needs a directory. -/
def transfersOf (program : String) (arguments : Arguments) :
    Run (Except (List Char) (List Transfer)) := do
  let into (directory : List Char) (sources : List (List Char)) : List Transfer :=
    sources.map fun source => ⟨source, pathIn directory (lastPart source)⟩
  match arguments.value? 't', arguments.operands.reverse with
  | some directory, _ => return .ok (into directory arguments.operands)
  | none, [] => return .error "missing file operand".toList
  | none, [only] =>
    return .error (if program = "ln" then "missing file operand".toList
      else "missing destination file operand after ".toList ++ Quoting.name only)
  | none, target :: sources =>
    if (← isDirectoryAt target) ∧ ¬ arguments.has 'T' then
      return .ok (into target sources.reverse)
    else match sources with
      | [source] => return .ok [⟨source, target⟩]
      | _ =>
        let reason := match (← files).find (← process).directory (path target) with
          | .error error => describe error
          | .ok _ => "Not a directory"
        object program ("target ".toList ++ Quoting.name target ++ Text.octetsOf s!": {reason}")
        return .ok []

/-- Carries out transfers, and tells of each that has worked. -/
def carryOut (program : String) (arguments : Arguments) (deed : String)
    (act : Transfer → Run (Option (List Char))) : Run Nat := do
  match ← transfersOf program arguments with
  | .error mistake => misused program 1 mistake
  | .ok transfers => do
    let statuses ← transfers.mapM fun transfer => do
      match ← act transfer with
      | none =>
        if arguments.has 'v' then
          write 1 (deed.toList ++ Quoting.name transfer.source ++ " -> ".toList
            ++ Quoting.name transfer.target ++ ['\n'])
        return 0
      | some [] => return 0
      | some reason =>
        object program reason
        return 1
    return statusOf (!transfers.isEmpty && statuses.all (· = 0))

/-- Why something cannot be done with a path. -/
def cannot (deed : String) (operand : List Char) (reason : String) : List Char :=
  Text.octetsOf s!"cannot {deed} " ++ Quoting.name operand ++ Text.octetsOf s!": {reason}"

/-! ## Copying and moving -/

/-- Copies what is at a place, with all below it, to another place.  What is new there has its
    rights changed. -/
def copyTree (change : Rights → Rights) (source target : Location) (files : Files) : Files :=
  let copied := files.nodes.filter fun (location, _) => source.isPrefixOf location
  let copied := if copied.any (·.1 = source) then copied
    else (source, .directory Rights.ofProgram) :: copied
  copied.foldl (fun files (location, node) =>
    let place := target ++ location.drop source.length
    match files.node? place, node with
    | some (.directory _), .directory _ => files
    | some (.file _ rights), .file contents _ => files.put place (.file contents rights)
    | _, _ => files.put place (withRights change node)) files

/-- The options of `cp` and `mv`. -/
def transferOptions : Options where
  flags := ['r', 'R', 'a', 'd', 'P', 'L', 'H', 'f', 'i', 'n', 'p', 'v', 'u', 'T']
  valued := ['t']
  names := [("recursive", 'r'), ("archive", 'a'), ("no-dereference", 'P'), ("dereference", 'L'),
    ("force", 'f'), ("no-clobber", 'n'), ("verbose", 'v'), ("target-directory", 't'),
    ("no-target-directory", 'T'), ("update", 'u')]

/-- Why one node cannot take the place of another. -/
def clash? (transfer : Transfer) (node : Node) (old? : Option Node) : Option (List Char) :=
  match node.isDirectory, old?.map Node.isDirectory with
  | true, some false =>
    some ("cannot overwrite non-directory ".toList ++ Quoting.name transfer.target
      ++ " with directory ".toList ++ Quoting.name transfer.source)
  | false, some true =>
    some ("cannot overwrite directory ".toList ++ Quoting.name transfer.target
      ++ " with non-directory".toList)
  | _, _ => none

/-- Copies files. -/
def cp : Utility :=
  withOptions "cp" 1 transferOptions fun arguments => do
    let recursive := ['r', 'R', 'a'].any (arguments.has ·)
    let entersLinks := arguments.has 'L' ||
      !(recursive || arguments.has 'd' || arguments.has 'P')
    let mask := (← process).mask
    let keeps := arguments.has 'p' || arguments.has 'a'
    let change (rights : Rights) : Rights := if keeps then rights else rights.without mask
    carryOut "cp" arguments "" fun transfer => do
      let files ← files
      let directory := (← process).directory
      match files.nodeAt (files.locateFrom entersLinks directory (path transfer.source)) with
      | .error error => return some (cannot "stat" transfer.source (describe error))
      | .ok (location, node) =>
        if node.isDirectory ∧ ¬ recursive then
          return some
            ("-r not specified; omitting directory ".toList ++ Quoting.name transfer.source)
        match files.locateFrom (!node.isLink) directory (path transfer.target) with
        | .error error =>
          let isOpen := transfer.target.getLast? = some '/' ∧ error = .notFound
          let reason := if isOpen then "Not a directory" else describe error
          return some (cannot (if node.isDirectory then "create directory"
            else "create regular file") transfer.target reason)
        | .ok place =>
          if location = place then
            return some (Quoting.name transfer.source ++ " and ".toList ++
              Quoting.name transfer.target ++ " are the same file".toList)
          if location.isPrefixOf place ∧ node.isDirectory then
            return some ("cannot copy a directory, ".toList ++ Quoting.name transfer.source
              ++ ", into itself, ".toList ++ Quoting.name transfer.target)
          match clash? transfer node (files.node? place) with
          | some reason => return some reason
          | none =>
            if arguments.has 'n' ∧ (files.node? place).isSome then return some []
            let target := files.node? place
            if (node matches .device _ | .program _) || target matches some (.device _) then
              setContents place (Text.ofOctets (← textOfNode node))
            else updateFiles (copyTree change location place)
            return none

/-- Moves files. -/
def mv : Utility :=
  withOptions "mv" 1 transferOptions fun arguments =>
    carryOut "mv" arguments "renamed " fun transfer => do
      let files ← files
      let directory := (← process).directory
      match files.findEntry directory (path transfer.source) with
      | .error error => return some (cannot "stat" transfer.source (describe error))
      | .ok (location, node) =>
        match files.locateEntry directory (path transfer.target) with
        | .error error =>
          return some ("cannot move ".toList ++ Quoting.name transfer.source ++ " to ".toList
            ++ Quoting.name transfer.target ++ Text.octetsOf s!": {describe error}")
        | .ok place =>
          if location = place then
            return some (Quoting.name transfer.source ++ " and ".toList ++
              Quoting.name transfer.target ++ " are the same file".toList)
          if location.isPrefixOf place ∧ node.isDirectory then
            return some ("cannot move ".toList ++ Quoting.name transfer.source
              ++ " to a subdirectory of itself, ".toList ++ Quoting.name transfer.target)
          match clash? transfer node (files.node? place) with
          | some reason => return some reason
          | none =>
            if node.isDirectory ∧ ¬ (files.namesIn place).isEmpty then
              return some (cannot "overwrite" transfer.target "Directory not empty")
            if arguments.has 'n' ∧ (files.node? place).isSome then return some []
            updateFiles fun files =>
              (copyTree id location place (files.remove place)).remove location
            return none

/-! ## Links -/

/-- The options of `ln`. -/
def lnOptions : Options where
  flags := ['s', 'f', 'n', 'v', 'i', 'T', 'r', 'L', 'P']
  valued := ['t']
  names := [("symbolic", 's'), ("force", 'f'), ("no-dereference", 'n'), ("verbose", 'v'),
    ("target-directory", 't'), ("no-target-directory", 'T')]

/-- What links are to be made.  One operand alone is linked to in the current directory. -/
def linksOf (arguments : Arguments) : Run (Except (List Char) (List Transfer)) := do
  match arguments.operands, arguments.value? 't' with
  | [only], none => return .ok [⟨only, '.' :: '/' :: lastPart only⟩]
  | [source, target], none =>
    let named := (← files).findEntry (← process).directory (path target)
    let isLink := (named.toOption.map fun (_, node) => node.isLink).getD false
    if arguments.has 'n' && isLink then return .ok [⟨source, target⟩]
    else transfersOf "ln" arguments
  | _, _ => transfersOf "ln" arguments

/-- Makes links.  A link that is not symbolic has the contents of the file as they are. -/
def ln : Utility :=
  withOptions "ln" 1 lnOptions fun arguments => do
    let isSymbolic := arguments.has 's'
    let kind := if isSymbolic then "symbolic link" else "hard link"
    match ← linksOf arguments with
    | .error mistake => misused "ln" 1 mistake
    | .ok links => do
      let statuses ← links.mapM fun link => do
        let files ← files
        let directory := (← process).directory
        let refuse (reason : List Char) : Run Nat := do
          object "ln" reason
          return 1
        let failed (reason : String) : List Char :=
          Text.octetsOf s!"failed to create {kind} " ++ Quoting.name link.target
            ++ Text.octetsOf s!": {reason}"
        let source := files.findEntry directory (path link.source)
        match isSymbolic, source with
        | false, .error error =>
          refuse ("failed to access ".toList ++ Quoting.name link.source
            ++ Text.octetsOf s!": {describe error}")
        | false, .ok (_, .directory _) =>
          refuse (link.source ++ ": hard link not allowed for directory".toList)
        | _, _ =>
          match files.locateEntry directory (path link.target) with
          | .error error => refuse (failed (describe error))
          | .ok place =>
            let old? := files.node? place
            if (old?.isSome ∧ ¬ arguments.has 'f') ∨ (old?.map Node.isDirectory) = some true then
              refuse (failed fileExists)
            else
              let node := match isSymbolic, source with
                | false, .ok (_, node) => node
                | _, _ => .link (path link.source)
              updateFiles fun files => files.put place node
              if arguments.has 'v' then
                write 1 (Quoting.name link.target ++ (if isSymbolic then " -> " else " => ").toList
                  ++ Quoting.name link.source ++ ['\n'])
              return 0
      return statusOf (!links.isEmpty && statuses.all (· = 0))

end Utility
end TestCoverage.Shell
