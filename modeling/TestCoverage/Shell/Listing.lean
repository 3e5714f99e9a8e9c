/-
  TestCoverage.Shell.Listing

  Programs that tell what is there: names, rights, sizes, and where links lead.

  Files have no times, so one fixed time is shown where a time has to be.
-/
import TestCoverage.Shell.Pattern
import TestCoverage.Shell.Transfer

namespace TestCoverage.Shell

namespace Utility

open Run TestCoverage.Filter

/-! ## Facts about nodes -/

/-- How many bytes a node takes. -/
def sizeOf : Node → Nat
  | .directory _ => 4096
  | .file contents _ => contents.length
  | .program _ => 4096
  | .device _ => 0
  | .link target => target.length

/-- How many blocks of 1024 bytes a node takes on a disk, which gives out four at a time. -/
def blocksOf (node : Node) : Nat :=
  match node with
  | .link _ | .device _ => 0
  | _ => (sizeOf node + 4095) / 4096 * 4

/-- The letter of the kind of a node. -/
def kindLetter : Node → Char
  | .directory _ => 'd'
  | .link _ => 'l'
  | .device _ => 'c'
  | _ => '-'

/-- The kind of a node in words. -/
def kindName : Node → String
  | .directory _ => "directory"
  | .link _ => "symbolic link"
  | .device _ => "character special file"
  | .file [] _ => "regular empty file"
  | _ => "regular file"

/-- The kind and the rights of a node in letters. -/
def modeText (node : Node) : List Char :=
  kindLetter node :: Rights.letterText (rightsOf node)

/-- A text at the end of a column that is so wide. -/
def atRight (width : Nat) (text : List Char) : List Char :=
  List.replicate (width - text.length) ' ' ++ text

/-- How many names a node has: a directory has one in itself, and one in each directory
    that it holds. -/
def nameCount (files : Files) (location : Location) (node : Node) : Nat :=
  if node.isDirectory then
    let inside := (files.namesIn location).filter fun name =>
      ((files.node? (location ++ [name])).map Node.isDirectory).getD false
    inside.length + 2
  else 1

/-! ## Lists of names -/

/-- Something that is listed: its name, its place, and what stands there. -/
structure Listed where
  name : List Char
  location : Location
  node : Node

/-- The options of `ls`. -/
def lsOptions : Options where
  flags := ['a', 'A', '1', 'd', 'r', 'C', 'h', 'l', 'F', 'p', 'm', 'Q', 'R', 'S', 'U', 't', 'i',
    's', 'n', 'g', 'o', 'G', 'L', 'H', 'k', 'X', 'v', 'x', 'c', 'u', 'N', 'b', 'B', 'q', 'f']
  valued := ['I', 'w', 'T']
  names := [("all", 'a'), ("almost-all", 'A'), ("directory", 'd'), ("reverse", 'r'),
    ("classify", 'F'), ("recursive", 'R'), ("quote-name", 'Q'), ("size", 's'), ("inode", 'i'),
    ("numeric-uid-gid", 'n'), ("no-group", 'G'), ("dereference", 'L'), ("ignore", 'I'),
    ("human-readable", 'h'), ("ignore-backups", 'B'), ("color", 'N'), ("width", 'w')]

/-- The sign behind a name that tells its kind. -/
def kindSign (arguments : Arguments) (node : Node) : List Char :=
  if node.isDirectory then
    if arguments.has 'F' ∨ arguments.has 'p' then ['/'] else []
  else if ¬ arguments.has 'F' then []
  else match node with
    | .link _ => ['@']
    | .program _ => ['*']
    | .file _ rights => if rights.allowRunning then ['*'] else []
    | _ => []

/-- The name as it is shown. -/
def nameText (arguments : Arguments) (listed : Listed) : List Char :=
  let name := if arguments.has 'Q' then '"' :: listed.name ++ ['"'] else listed.name
  name ++ kindSign arguments listed.node

/-- The lists are long ones. -/
def isLong (arguments : Arguments) : Bool :=
  ['l', 'n', 'g', 'o'].any (arguments.has ·)

/-- The order of names in a list. -/
def listedOrder (arguments : Arguments) (a b : Listed) : Bool :=
  let byName := compareTexts a.name b.name != .gt
  if arguments.has 'S' then
    if sizeOf a.node = sizeOf b.node then byName else sizeOf b.node < sizeOf a.node
  else if arguments.has 'X' then
    let ending (name : List Char) : List Char :=
      if (name.drop 1).contains '.' then (name.reverse.takeWhile (· ≠ '.')).reverse else []
    match compareTexts (ending a.name) (ending b.name) with
    | .lt => true
    | .gt => false
    | .eq => byName
  else byName

/-- The names in their order. -/
def inListOrder (arguments : Arguments) (names : List Listed) : List Listed :=
  let ordered := if arguments.has 'U' ∨ arguments.has 'f' then names
    else names.mergeSort (listedOrder arguments)
  if arguments.has 'r' then ordered.reverse else ordered

/-- The lines of a long list. -/
def longLines (arguments : Arguments) (files : Files) (names : List Listed) :
    List (List Char) :=
  let count (listed : Listed) : List Char :=
    decimal (nameCount files listed.location listed.node)
  let size (listed : Listed) : List Char := match listed.node with
    | .device _ => "1, 3".toList
    | node => decimal (sizeOf node)
  let width (column : Listed → List Char) : Nat :=
    (names.map fun listed => (column listed).length).foldl max 0
  let user := if arguments.has 'n' then "0".toList else "root".toList
  names.map fun listed =>
    let owner := if arguments.has 'g' then [] else [user]
    let group := if arguments.has 'o' ∨ arguments.has 'G' then [] else [user]
    let target := match listed.node with
      | .link target => " -> ".toList ++ Text.octets target
      | _ => []
    [' '].intercalate ([modeText listed.node, atRight (width count) (count listed)] ++ owner
      ++ group ++ [atRight (width size) (size listed), "Jan  1 00:00".toList,
        nameText arguments listed ++ target])

/-- A list of names. -/
def listText (arguments : Arguments) (files : Files) (names : List Listed) : List Char :=
  if names.isEmpty then []
  else
    let lines := if isLong arguments then longLines arguments files names
      else names.map (nameText arguments)
    let lines := if arguments.has 's' then
        let width := (names.map fun listed => (decimal (blocksOf listed.node)).length).foldl max 0
        (names.zip lines).map fun (listed, line) =>
          atRight width (decimal (blocksOf listed.node)) ++ ' ' :: line
      else lines
    let lines := if arguments.has 'i' then
        lines.zipIdx.map fun (line, index) => decimal (1000 + index) ++ ' ' :: line
      else lines
    if arguments.has 'm' ∧ ¬ isLong arguments then ", ".toList.intercalate lines ++ ['\n']
    else ofLines lines

/-- What is shown of a directory. -/
def namesShown (arguments : Arguments) (files : Files) (location : Location) : List Listed :=
  let ignored := (arguments.values 'I').map Pattern.ofEscaped
  let inside := (files.namesIn location).filterMap fun name =>
    (files.node? (location ++ [name])).map fun node =>
      (⟨Text.octets name, location ++ [name], node⟩ : Listed)
  let all := arguments.has 'a' || arguments.has 'A' || arguments.has 'f'
  let shown := inside.filter fun listed =>
    (all || listed.name.head? ≠ some '.')
      && !ignored.any (Pattern.isMatch · listed.name)
      && !(arguments.has 'B' && listed.name.getLast? = some '~')
  let own : List Listed := if arguments.has 'a' ∨ arguments.has 'f' then
      [⟨['.'], location, (files.node? location).getD (.directory Rights.ofProgram)⟩,
        ⟨['.', '.'], location.dropLast, .directory Rights.ofProgram⟩]
    else []
  inListOrder arguments (own ++ shown)

/-- Lists a directory, and with `-R` those in it, down to a depth. -/
def listDirectory (arguments : Arguments) (files : Files) (isNamed : Bool) :
    Nat → List Char → Location → List (List Char)
  | 0, _, _ => []
  | depth + 1, name, location =>
    let names := namesShown arguments files location
    let total := (names.map fun listed => blocksOf listed.node).foldl (· + ·) 0
    let head := if isNamed then name ++ [':', '\n'] else []
    let sum := if isLong arguments ∨ arguments.has 's' then
        "total ".toList ++ decimal total ++ ['\n']
      else []
    let below := if arguments.has 'R' then
        (names.filter fun listed =>
          listed.node.isDirectory && listed.name ≠ ['.'] && listed.name ≠ ['.', '.']).flatMap
          fun listed =>
            listDirectory arguments files isNamed depth (pathIn name listed.name) listed.location
      else []
    (head ++ sum ++ listText arguments files names) :: below

/-- Writes the names in directories. -/
def ls : Utility :=
  withOptions "ls" 2 lsOptions fun arguments => do
    let operands := if arguments.operands.isEmpty then [['.']] else arguments.operands
    let files ← files
    let directory := (← process).directory
    let showsLinks := arguments.has 'd' || isLong arguments || arguments.has 'F'
    let found ← operands.mapM fun operand => do
      let entry := files.findEntry directory (path operand)
      let target := files.find directory (path operand)
      let place := match entry, target with
        | .ok (_, .link _), .ok (_, .directory _) =>
          if showsLinks ∧ ¬ arguments.has 'L' then entry else target
        | .ok (_, .link _), .ok _ => if arguments.has 'L' then target else entry
        | _, _ => entry
      match place with
      | .ok (location, node) => return some (⟨operand, location, node⟩ : Listed)
      | .error error => do
        object "ls" ("cannot access ".toList ++ Quoting.name operand
          ++ Text.octetsOf s!": {describe error}")
        return none
    let isOpened (listed : Listed) : Bool := listed.node.isDirectory && !arguments.has 'd'
    let items := inListOrder arguments (found.filterMap id)
    let plain := items.filter (!isOpened ·)
    let opened := items.filter isOpened
    let isNamed := 1 < operands.length || arguments.has 'R'
    let lists := opened.flatMap fun listed =>
      listDirectory arguments files isNamed maxNesting listed.name listed.location
    let all := (if plain.isEmpty then [] else [listText arguments files plain]) ++ lists
    write 1 (['\n'].intercalate all)
    return if found.all Option.isSome then 0 else 2

/-! ## Properties -/

/-- What a letter in a format stands for. -/
def statText (files : Files) (listed : Listed) : Char → List Char
  | 'a' => Rights.octalText (rightsOf listed.node)
  | 'A' => modeText listed.node
  | 'b' => decimal (blocksOf listed.node * 2)
  | 'B' => "512".toList
  | 'F' => (kindName listed.node).toList
  | 'f' =>
    let kind := match listed.node with
      | .directory _ => 0o040000
      | .link _ => 0o120000
      | .device _ => 0o020000
      | _ => 0o100000
    Nat.toDigits 16 (kind + rightsOf listed.node)
  | 'g' | 'u' | 't' | 'T' | 'W' => ['0']
  | 'G' | 'U' => "root".toList
  | 'h' => decimal (nameCount files listed.location listed.node)
  | 'n' => listed.name
  | 'N' => Quoting.name listed.name ++ (match listed.node with
    | .link target => " -> ".toList ++ Quoting.name (Text.octets target)
    | _ => [])
  | 'o' => "4096".toList
  | 's' => decimal (sizeOf listed.node)
  | 'm' => ['/']
  | '%' => ['%']
  | 'd' | 'i' | 'X' | 'Y' | 'Z' => "1000".toList
  | _ => ['?']

/-- Writes by a format what letters behind a percent sign stand for.  Controls are escaped if
    that is said.  There are no more parts than the bound. -/
def directives (value : Char → Option (List Char)) (escapes : Bool) :
    Nat → List Char → List Char
  | 0, _ | _, [] => []
  | bound + 1, '%' :: rest =>
    let (conversion, behind) := Format.readFlags rest {}
    let digits := behind.takeWhile Char.isDigit
    match behind.drop digits.length with
    | [] => ['%']
    | letter :: rest =>
      let conversion := { conversion with width := (Filter.number? digits).getD 0 }
      let text := match value letter with
        | none => ['%', letter]
        | some text =>
          if conversion.zero ∧ ¬ conversion.left then
            List.replicate (conversion.width - text.length) '0' ++ text
          else conversion.pad text
      text ++ directives value escapes bound rest
  | bound + 1, '\\' :: rest =>
    if escapes then
      let (c, rest) := match rest with
        | [] => ('\\', [])
        | _ => Format.escape .printf rest
      c :: directives value escapes bound rest
    else '\\' :: directives value escapes bound rest
  | bound + 1, c :: rest => c :: directives value escapes bound rest

/-- Writes a node by a format. -/
def statFormat (files : Files) (listed : Listed) (escapes : Bool) (format : List Char) :
    List Char :=
  directives (fun letter => some (statText files listed letter)) escapes format.length format

/-- The letter for a format that is taken as it is. -/
def printfLetter : Char := '\x01'

/-- The options of `stat`. -/
def statOptions : Options where
  flags := ['L', 't', 'f']
  valued := ['c', printfLetter]
  names := [("format", 'c'), ("printf", printfLetter), ("dereference", 'L'), ("terse", 't')]

/-- What is written of a node without a format. -/
def statUsual (files : Files) (listed : Listed) : List Char :=
  let target := match listed.node with
    | .link target => " -> ".toList ++ Text.octets target
    | _ => []
  "  File: ".toList ++ listed.name ++ target ++ statFormat files listed false
    "\n  Size: %-10s\tBlocks: %-10b IO Block: %-6o %F\n".toList

/-- Writes properties of files. -/
def stat : Utility :=
  withOptions "stat" 1 statOptions fun arguments =>
    if arguments.operands.isEmpty then misused "stat" 1 "missing operand".toList
    else do
      let files ← files
      let directory := (← process).directory
      let statuses ← arguments.operands.mapM fun operand => do
        let place := files.locateFrom (arguments.has 'L') directory (path operand)
        match files.nodeAt place with
        | .error error =>
          object "stat" ("cannot statx ".toList ++ Quoting.name operand
            ++ Text.octetsOf s!": {describe error}")
          return 1
        | .ok (location, node) =>
          let listed : Listed := ⟨operand, location, node⟩
          let text := match arguments.value? printfLetter, arguments.value? 'c' with
            | some format, _ => statFormat files listed true format
            | none, some format => statFormat files listed false format ++ ['\n']
            | none, none => statUsual files listed
          write 1 text
          return 0
      return statusOf (statuses.all (· = 0))

/-! ## Links and real paths -/

/-- The options of `readlink`. -/
def readlinkOptions : Options where
  flags := ['f', 'e', 'm', 'n', 'q', 's', 'v', 'z']
  names := [("canonicalize", 'f'), ("canonicalize-existing", 'e'),
    ("canonicalize-missing", 'm'), ("no-newline", 'n'), ("zero", 'z')]

/-- Writes where links lead. -/
def readlink : Utility :=
  withOperands "readlink" readlinkOptions fun arguments => do
    let files ← files
    let directory := (← process).directory
    let ending := if arguments.has 'z' then ['\x00']
      else if arguments.has 'n' ∧ arguments.operands.length = 1 then [] else ['\n']
    let statuses ← arguments.operands.mapM fun operand => do
      let place := files.locate directory (path operand)
      let text? : Option (List Char) :=
        if arguments.has 'm' then
          some (pathOf (place.toOption.getD (directory.named (path operand))))
        else if arguments.has 'e' then (files.nodeAt place).toOption.map fun (l, _) => pathOf l
        else if arguments.has 'f' then place.toOption.map pathOf
        else match files.findEntry directory (path operand) with
          | .ok (_, .link target) => some (Text.octets target)
          | _ => none
      match text? with
      | some text =>
        write 1 (text ++ ending)
        return 0
      | none => return 1
    return statusOf (statuses.all (· = 0))

/-- The letter for the place from which paths are seen. -/
def relativeLetter : Char := '\x01'

/-- The options of `realpath`. -/
def realpathOptions : Options where
  flags := ['e', 'm', 's', 'q', 'z', 'L', 'P']
  valued := [relativeLetter]
  names := [("canonicalize-existing", 'e'), ("canonicalize-missing", 'm'), ("no-symlinks", 's'),
    ("strip", 's'), ("quiet", 'q'), ("zero", 'z'), ("relative-to", relativeLetter)]

/-- Writes where paths lead, without links and detours. -/
def realpath : Utility :=
  withOperands "realpath" realpathOptions fun arguments => do
    let files ← files
    let directory := (← process).directory
    let ending := if arguments.has 'z' then '\x00' else '\n'
    let base? := (arguments.value? relativeLetter).map fun base =>
      (files.locate directory (path base)).toOption.getD (directory.named (path base))
    let statuses ← arguments.operands.mapM fun operand => do
      let place := files.locate directory (path operand)
      let loose := directory.named (path operand)
      let found : Except FileError Location :=
        if arguments.has 's' then .ok loose
        else if arguments.has 'm' then .ok (place.toOption.getD loose)
        else if arguments.has 'e' then (files.nodeAt place).map (·.1)
        else place
      match found with
      | .ok location =>
        let text := match base? with
          | some base =>
            let seen := Text.octets (Path.relativeTo (path (pathOf location)) (path (pathOf base)))
            if seen.isEmpty then ['.'] else seen
          | none => pathOf location
        write 1 (text ++ [ending])
        return 0
      | .error error =>
        if ¬ arguments.has 'q' then object "realpath" (cannotRead operand (describe error))
        return 1
    return statusOf (statuses.all (· = 0))

end Utility
end TestCoverage.Shell
