/-
  TestCoverage.Shell.Find

  A program that looks for files below directories, and does something with those it finds.
-/
import TestCoverage.Shell.Listing
import TestCoverage.Shell.Query

namespace TestCoverage.Shell

namespace Utility

open Run TestCoverage.Filter

/-! ## Answers -/

/-- A file that is visited. -/
structure Visited where
  /-- the path from which it has been reached -/
  start : List Char
  /-- the path by which it is shown -/
  shown : List Char
  location : Location
  node : Node
  depth : Nat

/-- What the files visited so far have led to. -/
structure Walk where
  /-- the directory that is visited is not entered -/
  pruned : Bool := false
  /-- nothing more is visited -/
  ended : Bool := false
  failed : Bool := false
  /-- calls to be made at the end, and the files for each of them -/
  collected : List (List (List Char) × List (List Char)) := []

/-- Does something for each visited file. -/
abbrev Walking := StateT Walk Run

/-- A way to run a program with arguments. -/
abbrev Call := List (List Char) → Run Nat

/-- The letter of the kind of a node, as questions name it. -/
def askedKind (node : Node) : Char :=
  match kindLetter node with
  | '-' => 'f'
  | letter => letter

/-- The node may be run by somebody. -/
def mayRun : Node → Bool
  | .program _ => true
  | node => (rightsOf node).allowRunning

/-- What a letter in a format stands for. -/
def visitedText (files : Files) (visited : Visited) : Char → Option (List Char)
  | 'p' => some visited.shown
  | 'f' => some (lastPart visited.shown)
  | 'h' =>
    some (if visited.shown.contains '/' then
      (visited.shown.reverse.dropWhile (· ≠ '/')).tail.reverse else ['.'])
  | 'P' =>
    let rest := visited.shown.drop visited.start.length
    some (if rest.head? = some '/' then rest.tail else rest)
  | 'H' => some visited.start
  | 'd' => some (decimal visited.depth)
  | 'y' | 'Y' => some [askedKind visited.node]
  | 'm' => some (Rights.octalText (rightsOf visited.node))
  | 'M' => some (modeText visited.node)
  | 's' => some (decimal (Utility.sizeOf visited.node))
  | 'k' => some (decimal (blocksOf visited.node))
  | 'b' => some (decimal (blocksOf visited.node * 2))
  | 'n' => some (decimal (nameCount files visited.location visited.node))
  | 'u' | 'g' => some "root".toList
  | 'U' | 'G' => some ['0']
  | 'l' => match visited.node with
    | .link target => some (Text.octets target)
    | _ => some []
  | '%' => some ['%']
  | _ => none

/-- The call with the path of a file in the place of braces. -/
def withPath (shown : List Char) (words : List (List Char)) : List (List Char) :=
  words.map fun word => replaceBraces word.length word
where
  /-- The word with the path in the place of braces.  The bound is its length. -/
  replaceBraces : Nat → List Char → List Char
    | 0, word => word
    | bound + 1, '\x7b' :: '\x7d' :: rest => shown ++ replaceBraces bound rest
    | bound + 1, c :: rest => c :: replaceBraces bound rest
    | _, [] => []

/-- The text as a pattern wants it: in small letters if the case does not count. -/
def inCase (ignoresCase : Bool) (text : List Char) : List Char :=
  if ignoresCase then text.map Char.toLower else text

/-- Takes a visited file away. -/
def deleteVisited (visited : Visited) : Walking Bool := do
  let refuse (reason : String) : Walking Bool := do
    object "find" ("cannot delete ".toList ++ inQuotes visited.shown
      ++ Text.octetsOf s!": {reason}")
    modify fun walk => { walk with failed := true }
    return false
  if visited.shown = ['.'] then return true
  else if visited.node.isDirectory ∧ ¬ ((← files).namesIn visited.location).isEmpty then
    refuse "Directory not empty"
  else
    removeAt visited.location
    return true

/-- Answers a question about a file. -/
def answer (call : Call) (visited : Visited) : Question → Walking Bool
  | .always answer => return answer
  | .name ignoresCase pattern =>
    return Pattern.isMatch pattern (inCase ignoresCase (lastPart visited.shown))
  | .path ignoresCase pattern =>
    return Pattern.isMatch pattern (inCase ignoresCase visited.shown)
  | .target ignoresCase pattern =>
    return match visited.node with
      | .link target => Pattern.isMatch pattern (inCase ignoresCase (Text.octets target))
      | _ => false
  | .kind letters => return letters.contains (askedKind visited.node)
  | .empty => do
    let files ← files
    return match visited.node with
      | .file contents _ => contents.isEmpty
      | .directory _ => (files.namesIn visited.location).isEmpty
      | _ => false
  | .size amount unit =>
    return amount.allows ((Utility.sizeOf visited.node + unit - 1) / unit)
  | .names amount => do
    return amount.allows (nameCount (← files) visited.location visited.node)
  | .age amount => return amount.allows 0
  | .rights need rights =>
    let own := (rightsOf visited.node).land 0o7777
    return match need with
      | .exactly => own == rights
      | .all => own.land rights == rights
      | .some => rights == 0 || own.land rights != 0
  | .mayRun => return mayRun visited.node
  | .show' ending => do
    write 1 (visited.shown ++ ending)
    return true
  | .format format => do
    let files ← files
    write 1 (directives (visitedText files visited) true format.length format)
    return true
  | .prune => do
    modify fun walk => { walk with pruned := true }
    return true
  | .quit => do
    modify fun walk => { walk with ended := true }
    return true
  | .delete => deleteVisited visited
  | .call words inDirectory atEnd => do
    let shown := if inDirectory then '.' :: '/' :: lastPart visited.shown else visited.shown
    if atEnd then
      modify fun walk =>
        let others := walk.collected.filter (·.1 ≠ words)
        let items := ((walk.collected.find? (·.1 = words)).map (·.2)).getD []
        { walk with collected := others ++ [(words, items ++ [shown])] }
      return true
    else
      let before := (← process).directory
      if inDirectory then
        update fun process => { process with directory := visited.location.dropLast }
      let status ← call (withPath shown words)
      update fun process => { process with directory := before }
      return status = 0

/-- Answers questions about a file, as many as are needed. -/
def decide (call : Call) (visited : Visited) : Query → Walking Bool
  | .ask question => answer call visited question
  | .not query => return !(← decide call visited query)
  | .and first second => do
    if ← decide call visited first then
      if (← get).ended then return true else decide call visited second
    else return false
  | .or first second => do
    if ← decide call visited first then return true
    else if (← get).ended then return true
    else decide call visited second
  | .both first second => do
    let _ ← decide call visited first
    if (← get).ended then return true else decide call visited second

/-! ## Visiting -/

/-- What stands at the place of an entry of a directory, entered if links are followed. -/
def entryAt (follows : Bool) (files : Files) (location : Location) :
    Option (Location × Node) :=
  match files.node? location with
  | some (.link target) =>
    if follows then
      match files.find [] (path (pathOf location)) with
      | .ok found => some found
      | .error _ => some (location, .link target)
    else some (location, .link target)
  | some node => some (location, node)
  | none => none

/-- Visits a file and what is below it.  The bound is how deep directories may be nested. -/
def visit (call : Call) (hunt : Hunt) (follows : Bool) : Nat → Visited → Walking Unit
  | 0, _ => return
  | bound + 1, visited => do
    if (← get).ended then return
    let isWanted := hunt.minDepth ≤ visited.depth
    modify fun walk => { walk with pruned := false }
    if isWanted ∧ ¬ hunt.depthFirst then
      let _ ← decide call visited hunt.query
    let isDeep := hunt.maxDepth.any (· ≤ visited.depth)
    let pruned := (← get).pruned && !hunt.depthFirst
    if visited.node.isDirectory ∧ ¬ isDeep ∧ ¬ pruned ∧ ¬ (← get).ended then
      if ((← files).node? visited.location).isNone then
        object "find" (inQuotes visited.shown ++ ": No such file or directory".toList)
        modify fun walk => { walk with failed := true }
      else
        ((← files).namesIn visited.location).forM fun name => do
          match entryAt follows (← files) (visited.location ++ [name]) with
          | some (location, node) =>
            visit call hunt follows bound { visited with
              shown := pathIn visited.shown (Text.octets name)
              location, node
              depth := visited.depth + 1 }
          | none => return
    if isWanted ∧ hunt.depthFirst ∧ ¬ (← get).ended then
      let _ ← decide call visited hunt.query

/-- Visits the files below each path. -/
def visitAll (call : Call) (hunt : Hunt) (followsStart follows : Bool)
    (starts : List (List Char)) : Walking Unit :=
  starts.forM fun start => do
    let files ← files
    let directory := (← process).directory
    let entry := files.findEntry directory (path start)
    let found : Except FileError (Location × Node) :=
      match entry, files.find directory (path start) with
      | .ok (_, .link _), .ok target => if followsStart then .ok target else entry
      | _, _ => entry
    match found with
    | .ok (location, node) =>
      visit call hunt follows maxNesting { start, shown := start, location, node, depth := 0 }
    | .error error => do
      object "find" (inQuotes start ++ Text.octetsOf s!": {describe error}")
      modify fun walk => { walk with failed := true }

/-- Whether links are followed where the walk starts, and everywhere, and the other arguments. -/
def linkOptions : List (List Char) → Bool → Bool → Bool × Bool × List (List Char)
  | ['-', 'P'] :: rest, _, _ => linkOptions rest false false
  | ['-', 'H'] :: rest, _, _ => linkOptions rest true false
  | ['-', 'L'] :: rest, _, _ => linkOptions rest true true
  | rest, atStart, everywhere => (atStart, everywhere, rest)

/-- Looks for files. -/
def find (call : Call) : Utility := fun arguments => do
  let (followsStart, follows, arguments) := linkOptions arguments false false
  let starts := arguments.takeWhile (!Query.beginsQuestions ·)
  match Query.read (arguments.drop starts.length) with
  | .error fault => do
    object "find" fault
    return 1
  | .ok hunt => do
    let hunt := if hunt.query.acts then hunt
      else { hunt with query := .and hunt.query (.ask (.show' ['\n'])) }
    let starts := if starts.isEmpty then [['.']] else starts
    let ((), walk) ← (visitAll call hunt followsStart follows starts).run {}
    let statuses ← walk.collected.mapM fun (words, items) => call (words ++ items)
    return statusOf (!walk.failed && statuses.all (· = 0))

end Utility
end TestCoverage.Shell
