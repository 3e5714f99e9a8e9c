/-
  TestCoverage.Filter.Edit

  A stream editor at work: a script of commands is carried out for each line of a text.

  The line stands in a working space, where commands change it, and at the end of the script
  it is written.  A second space keeps text from one line to the next.
-/
import TestCoverage.Filter.EditScript

namespace TestCoverage.Filter

/-- What is written to one place. -/
structure Outlet where
  /-- the last text first -/
  written : List (List Char) := []
  /-- the last line lacks its end -/
  lacksEnd : Bool := false

/-- Writes a text, behind the end of the line that was written before it.  Ends of lines are
    written with a mark. -/
def Outlet.add (outlet : Outlet) (mark : Char) (text : List Char) (lacksEnd : Bool := false) :
    Outlet :=
  { written := text :: (if outlet.lacksEnd then [[mark]] else []) ++ outlet.written, lacksEnd }

/-- All that is written. -/
def Outlet.text (outlet : Outlet) : List Char :=
  outlet.written.reverse.flatten

/-- A line to be edited. -/
structure EditLine where
  text : List Char
  hasEnd : Bool := true
  /-- the name of the file that it is from -/
  source : List Char := ['-']

/-- The state of an editor. -/
structure Editor where
  /-- the lines that are still to come -/
  input : List EditLine := []
  /-- how the end of a line is written -/
  mark : Char := '\n'
  space : List Char := []
  kept : List Char := []
  /-- the line in the working space had an end -/
  hasEnd : Bool := true
  /-- what is kept had an end -/
  keptHasEnd : Bool := true
  line : Nat := 0
  /-- the name of the file that the line is from -/
  source : List Char := ['-']
  /-- the width of lines in letters that can be read -/
  plainWidth : Nat := 70
  output : Outlet := {}
  /-- what is written to files, by their names -/
  saved : List (List Char × Outlet) := []
  /-- the texts that are written behind the line -/
  queue : List (List Char) := []
  /-- the ranges that have begun, by the numbers of their commands: where they began -/
  ranges : List (Nat × Nat) := []
  /-- something has been replaced since the line was read -/
  replaced : Bool := false
  /-- the pattern that was used last -/
  pattern : Option Regex := none
  /-- lines are not written at the end of the script -/
  isQuiet : Bool := false
  /-- a command has ended all editing -/
  stopped : Bool := false
  /-- the texts of files by their names -/
  files : List (List Char × List Char) := []

/-- What happens next in a script. -/
inductive EditStep where
  | goOn
  /-- goes on behind a label, or at the end -/
  | jump (label : List Char)
  /-- goes on behind a closing brace -/
  | skip
  /-- ends the round, and writes the line or not -/
  | round (prints : Bool)
  /-- begins a round without reading a line -/
  | restart
  | quit (prints : Bool) (status : Nat)

namespace Editor

/-- Writes a text, behind the end of the line that was written before it. -/
def write (editor : Editor) (text : List Char) (lacksEnd : Bool := false) : Editor :=
  { editor with output := editor.output.add editor.mark text lacksEnd }

/-- A line with its end. -/
def ended (editor : Editor) (line : List Char) : List Char :=
  line ++ [editor.mark]

/-- Writes the working space as a line. -/
def writeSpace (editor : Editor) : Editor :=
  if editor.hasEnd then editor.write (editor.ended editor.space)
  else editor.write editor.space true

/-- The name under which a file is the output itself. -/
def outputName : List Char := "/dev/stdout".toList

/-- Writes a line to a file. -/
def save (editor : Editor) (name line : List Char) (hasEnd : Bool) : Editor :=
  let text := if hasEnd then editor.ended line else line
  if name = outputName then editor.write text (!hasEnd)
  else
    let outlet := ((editor.saved.lookup name).getD {}).add editor.mark text (!hasEnd)
    { editor with saved := (name, outlet) :: editor.saved.filter (·.1 != name) }

/-- Writes what was to be written behind the line. -/
def flush (editor : Editor) : Editor :=
  if editor.queue.isEmpty then editor
  else { editor.write editor.queue.flatten with queue := [] }

/-- Takes the next line, if there is one: into the working space, or behind what is there. -/
def take? (adds : Bool) (editor : Editor) : Option Editor :=
  match editor.input with
  | [] => none
  | line :: input =>
    some { editor with
      input
      space := if adds then editor.space ++ editor.mark :: line.text else line.text
      hasEnd := line.hasEnd
      source := line.source
      line := editor.line + 1 }

/-- The working space matches a pattern. -/
def matchesPattern (editor : Editor) (regex : Option Regex) (foldsCase : Bool) : Bool :=
  ((regex.or editor.pattern).map fun regex => regex.occursIn foldsCase editor.space).getD false

/-- The line is meant by an address. -/
def isAt (editor : Editor) : Address → Bool
  | .line number => editor.line == number
  | .last => editor.input.isEmpty
  | .every first step =>
    if step = 0 then editor.line == first
    else first ≤ editor.line && (editor.line - first) % step == 0
  | .pattern regex foldsCase => editor.matchesPattern regex foldsCase
  | .multiple number => number = 0 || editor.line % number == 0
  | .further _ => false

/-- A range that began at a line ends with this one or has ended before; true if the line
    still belongs to it. -/
def endsRange (editor : Editor) (beginning : Nat) : Address → Bool × Bool
  | .line number => (number ≤ editor.line, editor.line ≤ number)
  | .further count => (beginning + count ≤ editor.line, true)
  | address => (editor.isAt address, true)

/-- The line is meant by the addresses of the command with the given number. -/
def isMeant (editor : Editor) (index : Nat) (addresses : List Address) : Bool × Editor :=
  match addresses with
  | [] => (true, editor)
  | [address] => (editor.isAt address, editor)
  | first :: final :: _ =>
    let others := editor.ranges.filter (·.1 ≠ index)
    match editor.ranges.find? (·.1 = index) with
    | some (_, beginning) =>
      let (ends, belongs) := editor.endsRange beginning final
      let editor := if ends then { editor with ranges := others } else editor
      if belongs then (true, editor) else (editor.isAt first, editor)
    | none =>
      if editor.isAt first then
        let isOver : Bool := match final with
          | .line number => number ≤ editor.line
          | .further count => count == 0
          | .multiple number => number == 0
          | _ => false
        (true, if isOver then editor else
          { editor with ranges := (index, editor.line) :: editor.ranges })
      else (false, editor)

/-- The pattern that an address uses. -/
def patternOf : Address → Option Regex
  | .pattern regex _ => regex
  | _ => none

/-- The text of a replacement for a match. -/
def replacement (parts : List Substitute) (found : Regex.Match) : List Char :=
  let add (shown : List Char) (casing : Option Casing) (next : Option Casing)
      (text : List Char) : List Char × Option Casing × Option Casing :=
    let cased := match casing with
      | some casing => text.map casing.apply
      | none => text
    match next, text, cased with
    | some next, c :: _, _ :: rest => (shown ++ next.apply c :: rest, casing, none)
    | _, _, _ => (shown ++ cased, casing, next)
  (parts.foldl (fun (shown, casing, next) part =>
    match part with
    | .text text => add shown casing next text
    | .group 0 => add shown casing next found.text
    | .group number => add shown casing next (found.closed.textOf number)
    | .casing casing => (shown, casing, none)
    | .nextCasing next => (shown, casing, some next))
    (([], none, none) : List Char × Option Casing × Option Casing)).1

/-- The text from a place on with matches replaced, and whether any has been.  The counter is
    the number of the next match, and directly behind a match no empty one counts.  The bound
    is more than the characters that are left. -/
def replaceFrom (substitution : Substitution) (regex : Regex) :
    Nat → Nat → Option Nat → Place → List Char × Bool
  | 0, _, _, place => (place.rest, false)
  | bound + 1, counter, forbidden, place =>
    match regex.find? substitution.foldsCase place with
    | none => (place.rest, false)
    | some found =>
      let before := place.rest.take (found.opened.index - place.index)
      let text := found.text
      let isEmpty := text.isEmpty
      let counts := !(isEmpty && forbidden = some found.opened.index)
      let isMeant := counts &&
        (counter == substitution.number || (substitution.all && substitution.number ≤ counter))
      let shown := if isMeant then replacement substitution.parts found else text
      let closed := { found.closed with groups := [] }
      let counter := if counts then counter + 1 else counter
      if isMeant ∧ ¬ substitution.all then
        (before ++ shown ++ closed.rest, true)
      else if isEmpty then
        match closed.rest with
        | [] => (before ++ shown, isMeant)
        | c :: rest =>
          let next := { closed with index := closed.index + 1, previous := some c, rest }
          let (others, any) := replaceFrom substitution regex bound counter none next
          (before ++ shown ++ c :: others, isMeant || any)
      else
        let (others, any) :=
          replaceFrom substitution regex bound counter (some closed.index) closed
        (before ++ shown ++ others, isMeant || any)

/-- Replaces matches in the working space. -/
def substitute (editor : Editor) (substitution : Substitution) : Editor :=
  match substitution.regex.or editor.pattern with
  | none => editor
  | some regex =>
    let (space, any) :=
      replaceFrom substitution regex (editor.space.length + 2) 1 none { rest := editor.space }
    let editor := { editor with pattern := some regex }
    if any then
      let editor := { editor with space, replaced := true }
      let editor := if substitution.prints then editor.writeSpace else editor
      match substitution.target with
      | some name => editor.save name space editor.hasEnd
      | none => editor
    else editor

/-- The first line of the working space, and the text behind it if there is more. -/
def firstLine (editor : Editor) : List Char × Option (List Char) :=
  let first := editor.space.takeWhile (· ≠ editor.mark)
  match editor.space.drop first.length with
  | _ :: rest => (first, some rest)
  | [] => (first, none)

/-- A character in letters that can be read. -/
def plainly (c : Char) : List Char :=
  match c with
  | '\\' => ['\\', '\\']
  | '\x07' => ['\\', 'a']
  | '\x08' => ['\\', 'b']
  | '\x0c' => ['\\', 'f']
  | '\n' => ['\\', 'n']
  | '\r' => ['\\', 'r']
  | '\t' => ['\\', 't']
  | '\x0b' => ['\\', 'v']
  | _ =>
    if ' ' ≤ c ∧ c ≤ '~' then [c]
    else
      let digits := Nat.toDigits 8 c.toNat
      '\\' :: List.replicate (3 - digits.length) '0' ++ digits

/-- A text in letters that can be read, in lines of a width if it is not zero, with a mark
    at its end. -/
def plainText (limit : Nat) (text : List Char) : List Char :=
  let (shown, _) := text.foldl (fun (shown, width) c =>
    let letters := plainly c
    if 0 < limit ∧ limit ≤ width + letters.length then
      ((letters.reverse ++ '\n' :: '\\' :: shown), letters.length)
    else (letters.reverse ++ shown, width + letters.length)) (([] : List Char), 0)
  shown.reverse ++ ['$', '\n']

/-- Does what a command says. -/
def act (editor : Editor) (command : EditCommand) : Editor × EditStep :=
  match command.action with
  | .substitute substitution => (editor.substitute substitution, .goOn)
  | .replaceEach old new =>
    ({ editor with space := Filter.exchange old new editor.space }, .goOn)
  | .delete => (editor, .round false)
  | .deleteFirst =>
    match editor.firstLine.2 with
    | some rest => ({ editor with space := rest }, .restart)
    | none => (editor, .round false)
  | .print => (editor.writeSpace, .goOn)
  | .printFirst =>
    match editor.firstLine with
    | (first, some _) => (editor.write (editor.ended first), .goOn)
    | (_, none) => (editor.writeSpace, .goOn)
  | .printPlainly width =>
    (editor.write (plainText (width.getD editor.plainWidth) editor.space), .goOn)
  | .empty => ({ editor with space := [] }, .goOn)
  | .file name =>
    ({ editor with queue := editor.queue ++ [(editor.files.lookup name).getD []] }, .goOn)
  | .lineOf name =>
    match endedBy editor.mark ((editor.files.lookup name).getD []) with
    | [] => (editor, .goOn)
    | line :: lines =>
      let files := (name, lines.flatten) :: editor.files.filter (·.1 != name)
      ({ editor with queue := editor.queue ++ [line], files }, .goOn)
  | .save name onlyFirst =>
    match onlyFirst, editor.firstLine with
    | true, (first, some _) => (editor.save name first true, .goOn)
    | _, _ => (editor.save name editor.space editor.hasEnd, .goOn)
  | .number => (editor.write (editor.ended (decimal editor.line)), .goOn)
  | .source => (editor.write (editor.source ++ ['\n']), .goOn)
  | .next =>
    if editor.input.isEmpty then (editor, .quit true 0)
    else
      let shown := if editor.isQuiet then editor else editor.writeSpace
      ((shown.flush.take? false).getD editor, .goOn)
  | .append =>
    match editor.flush.take? true with
    | some editor => (editor, .goOn)
    | none => (editor, .quit true 0)
  | .keep adds =>
    ({ editor with
      kept := if adds then editor.kept ++ editor.mark :: editor.space else editor.space
      keptHasEnd := editor.hasEnd }, .goOn)
  | .fetch adds =>
    ({ editor with
      space := if adds then editor.space ++ editor.mark :: editor.kept else editor.kept
      hasEnd := editor.keptHasEnd }, .goOn)
  | .exchange =>
    ({ editor with
      space := editor.kept
      kept := editor.space
      hasEnd := editor.keptHasEnd
      keptHasEnd := editor.hasEnd }, .goOn)
  | .behind text => ({ editor with queue := editor.queue ++ [text] }, .goOn)
  | .before text => (editor.write text, .goOn)
  | .change text =>
    let isInside := 1 < command.addresses.length ∧ ¬ command.negated
      ∧ ¬ editor.ranges.isEmpty ∧ ¬ editor.input.isEmpty
    (if isInside then editor else editor.write text, .round false)
  | .quit prints status => (editor, .quit prints status)
  | .jump label => (editor, .jump label)
  | .jumpIfReplaced label =>
    if editor.replaced then ({ editor with replaced := false }, .jump label)
    else (editor, .goOn)
  | .jumpUnlessReplaced label =>
    if editor.replaced then ({ editor with replaced := false }, .goOn)
    else (editor, .jump label)
  | .label _ | .open' | .close => (editor, .goOn)

/-- The commands behind the brace that closes the one in front of them. -/
def behindClose : Nat → List (EditCommand × Nat) → List (EditCommand × Nat)
  | _, [] => []
  | depth, (command, _) :: rest =>
    match command.action with
    | .open' => behindClose (depth + 1) rest
    | .close => if depth = 0 then rest else behindClose (depth - 1) rest
    | _ => behindClose depth rest

/-- The commands behind a label; none if there is no such label. -/
def behindLabel (label : List Char) (commands : List (EditCommand × Nat)) :
    List (EditCommand × Nat) :=
  (commands.dropWhile fun (command, _) =>
    match command.action with
    | .label name => name ≠ label
    | _ => true).drop 1

/-- Carries out commands to the end of a round.  A script that takes too many steps is
    stopped. -/
def runCommands (script : List (EditCommand × Nat)) :
    Nat → List (EditCommand × Nat) → Editor → Editor × EditStep
  | 0, _, editor => (editor, .quit false 1)
  | _, [], editor => (editor, .round true)
  | fuel + 1, (command, index) :: rest, editor =>
    let (meant, editor) := editor.isMeant index command.addresses
    let editor := { editor with
      pattern := (command.addresses.getLast?.bind patternOf).or editor.pattern }
    let (editor, step) :=
      if meant != command.negated then editor.act command
      else match command.action with
        | .open' => (editor, .skip)
        | _ => (editor, .goOn)
    match step with
    | .goOn => runCommands script fuel rest editor
    | .skip => runCommands script fuel (behindClose 0 rest) editor
    | .jump label =>
      runCommands script fuel (if label.isEmpty then [] else behindLabel label script) editor
    | _ => (editor, step)

/-- Carries out rounds until the lines are used up: the editor, and its status. -/
def runRounds (script : List (EditCommand × Nat)) (steps : Nat) :
    Nat → Bool → Editor → Editor × Nat
  | 0, _, editor => (editor, 1)
  | fuel + 1, reads, editor =>
    match if reads then editor.take? false else some editor with
    | none => (editor, 0)
    | some editor =>
      let editor := if reads then { editor with replaced := false } else editor
      let finish (prints : Bool) (editor : Editor) : Editor :=
        (if prints && !editor.isQuiet then editor.writeSpace else editor).flush
      match runCommands script steps script editor with
      | (editor, .restart) => runRounds script steps fuel false (finish false editor)
      | (editor, .quit prints status) => ({ finish prints editor with stopped := true }, status)
      | (editor, .round prints) => runRounds script steps fuel true (finish prints editor)
      | (editor, _) => runRounds script steps fuel true (finish true editor)

/-- How many steps a script may take. -/
def maxSteps : Nat := 100000

/-- The ranges of a script that have begun before the first line. -/
def begunRanges (script : List (EditCommand × Nat)) : List (Nat × Nat) :=
  script.filterMap fun (command, index) =>
    match command.addresses with
    | [.line 0, _] => some (index, 0)
    | _ => none

/-- The lines of a text from a file with a name. -/
def linesOf (mark : Char) (source text : List Char) : List EditLine :=
  (endedBy mark text).map fun line =>
    if line.getLast? = some mark then { text := line.dropLast, source }
    else { text := line, hasEnd := false, source }

/-- The editor behind lines that a script has been carried out for, and the status. -/
def run (commands : List EditCommand) (editor : Editor) (input : List EditLine) :
    Editor × Nat :=
  let script := commands.zipIdx
  runRounds script maxSteps maxSteps true
    { editor with input, line := 0, ranges := begunRanges script }

end Editor
end TestCoverage.Filter
