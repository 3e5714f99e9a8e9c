/-
  TestCoverage.Shell.Searching

  A program that writes the lines in which a pattern is found.
-/
import TestCoverage.Filter.Search
import TestCoverage.Shell.Filters
import TestCoverage.Shell.Pattern

namespace TestCoverage.Shell

namespace Utility

open Run TestCoverage.Filter

/-! ## Patterns -/

/-- How patterns are written. -/
inductive PatternKind where
  | basic
  | extended
  | fixed
  /-- with some more letters behind backslashes -/
  | rich
deriving DecidableEq, Repr

/-- Characters in brackets, with the meaning of letters behind backslashes.  The bound is the
    length of the text. -/
def plainSet : Nat → List Char → List Char × List Char
  | 0, text => ([], text)
  | _, [] => ([], [])
  | _, ']' :: rest => ([']'], rest)
  | bound + 1, '\\' :: c :: rest =>
    let (set, rest) := plainSet bound rest
    let meant := match c with
      | 'd' => "0-9".toList
      | 'w' => "A-Za-z0-9_".toList
      | 's' => " \t\n\r".toList
      | 't' => ['\t']
      | _ => [c]
    (meant ++ set, rest)
  | bound + 1, c :: rest =>
    let (set, rest) := plainSet bound rest
    (c :: set, rest)

/-- A pattern without the letters behind backslashes that are not known everywhere.  The bound is
    the length of the text. -/
def plainPattern : Nat → List Char → List Char
  | 0, text => text
  | _, [] => []
  | bound + 1, '\\' :: 'd' :: rest => "[0-9]".toList ++ plainPattern bound rest
  | bound + 1, '\\' :: 'D' :: rest => "[^0-9]".toList ++ plainPattern bound rest
  | bound + 1, '\\' :: 'h' :: rest => "[ \t]".toList ++ plainPattern bound rest
  | bound + 1, '\\' :: 't' :: rest => '\t' :: plainPattern bound rest
  | bound + 1, '\\' :: c :: rest => '\\' :: c :: plainPattern bound rest
  | bound + 1, '(' :: '?' :: ':' :: rest => '(' :: plainPattern bound rest
  | bound + 1, '[' :: '^' :: rest =>
    let (set, rest) := plainSet rest.length rest
    '[' :: '^' :: set ++ plainPattern bound rest
  | bound + 1, '[' :: rest =>
    let (set, rest) := plainSet rest.length rest
    '[' :: set ++ plainPattern bound rest
  | bound + 1, c :: rest => c :: plainPattern bound rest

/-- The patterns that an argument lists, one on each line. -/
def patterns (kind : PatternKind) (text : List Char) : Except Regex.Fault (List Regex) :=
  (Text.pieces '\n' text).mapM fun line =>
    match kind with
    | .fixed => .ok (Regex.literal line)
    | .basic => Regex.parse { lenient := true } line
    | .extended => Regex.parse { extended := true, lenient := true } line
    | .rich => Regex.parse { extended := true, lenient := true } (plainPattern line.length line)

/-! ## Options -/

/-- The letters that stand for options with only a name. -/
def colorLetter : Char := '\x01'
/-- The letter for the name under which the input is shown. -/
def inputNameLetter : Char := '\x02'
/-- The letter for the files that are searched. -/
def includeLetter : Char := '\x03'
/-- The letter for the files that are not searched. -/
def excludeLetter : Char := '\x04'
/-- The letter for the directories that are not searched. -/
def excludedDirectoryLetter : Char := '\x05'

/-- The options of `grep`. -/
def grepOptions : Options where
  flags := [
    'E', 'F', 'G', 'P', 'i', 'y', 'v', 'c', 'n', 'b', 'q', 'o', 'w', 'x', 'l', 'L', 'h', 'H', 's',
    'a', 'r', 'R', 'z', 'Z', 'T', 'I', 'U', 'u', colorLetter]
  valued := [
    'e', 'f', 'm', 'A', 'B', 'C', 'd', 'D', inputNameLetter, includeLetter, excludeLetter,
    excludedDirectoryLetter]
  names := [
    ("after-context", 'A'), ("before-context", 'B'), ("context", 'C'),
    ("extended-regexp", 'E'), ("fixed-strings", 'F'), ("basic-regexp", 'G'), ("perl-regexp", 'P'),
    ("ignore-case", 'i'), ("invert-match", 'v'), ("count", 'c'), ("line-number", 'n'),
    ("byte-offset", 'b'), ("quiet", 'q'), ("silent", 'q'), ("only-matching", 'o'),
    ("word-regexp", 'w'), ("line-regexp", 'x'), ("files-with-matches", 'l'),
    ("files-without-match", 'L'), ("no-filename", 'h'), ("with-filename", 'H'),
    ("no-messages", 's'), ("text", 'a'), ("recursive", 'r'), ("dereference-recursive", 'R'),
    ("null-data", 'z'), ("null", 'Z'), ("initial-tab", 'T'), ("binary", 'U'),
    ("line-buffered", 'u'), ("regexp", 'e'), ("file", 'f'), ("max-count", 'm'),
    ("directories", 'd'), ("devices", 'D'), ("color", colorLetter), ("colour", colorLetter),
    ("label", inputNameLetter), ("include", includeLetter), ("exclude", excludeLetter),
    ("exclude-dir", excludedDirectoryLetter)]

/-- A mistake of `grep` with its usage. -/
def misusedSearch (message : List Char) : Run Nat := do
  if ¬ message.isEmpty then object "grep" message
  say 2 "Usage: grep [OPTION]... PATTERNS [FILE]...\n"
  say 2 "Try 'grep --help' for more information.\n"
  return 2

/-- How many lines are shown on one side of those that are meant. -/
def contextSize (arguments : Arguments) (side : Char) : Nat :=
  ((arguments.value? side).or (arguments.value? 'C')).bind Filter.number? |>.getD 0

/-- How lines are shown. -/
structure LineStyle where
  label : List Char := []
  named : Bool := false
  numbered : Bool := false
  offsets : Bool := false
  colored : Bool := false
  /-- a tab in front of the line -/
  aligned : Bool := false
  /-- a zero byte ends a name -/
  zeros : Bool := false

/-- A text in a color. -/
def LineStyle.paint (style : LineStyle) (color : String) (text : List Char) : List Char :=
  if style.colored then
    "\x1b[".toList ++ color.toList ++ "m\x1b[K".toList ++ text ++ "\x1b[m\x1b[K".toList
  else text

/-- What stands before a line with a number and an offset. -/
def LineStyle.start (style : LineStyle) (sign : Char) (number offset : Nat) : List Char :=
  let separator := style.paint "36" [sign]
  let ending := if style.zeros then ['\x00'] else separator
  let parts :=
    (if style.named then style.paint "35" style.label ++ ending else [])
      ++ (if style.numbered then style.paint "32" (decimal number) ++ separator else [])
      ++ (if style.offsets then style.paint "32" (decimal offset) ++ separator else [])
  if style.aligned ∧ ¬ parts.isEmpty then parts ++ ['\t'] else parts

/-! ## Files -/

/-- A text that is searched, with its name, or why it cannot be read. -/
structure Searched where
  name : List Char
  text : Except String (List Char)

/-- A file in a directory is searched. -/
def isWanted (arguments : Arguments) (name : List Char) : Bool :=
  let fits (letter : Char) : Bool :=
    (arguments.values letter).any fun pattern => Pattern.isMatch (Pattern.ofEscaped pattern) name
  (!arguments.has includeLetter || fits includeLetter) && !fits excludeLetter

/-- The files below a directory, with the names by which they are shown.  The bound is how deep
    directories may be nested. -/
def filesBelow (arguments : Arguments) (files : Files) : Nat → List Char → Location →
    List (List Char × Location)
  | 0, _, _ => []
  | bound + 1, shown, location =>
    (files.namesIn location).flatMap fun part =>
      let name := Text.octets part
      let path := if shown.isEmpty then name
        else if shown.getLast? = some '/' then shown ++ name else shown ++ '/' :: name
      let place := location ++ [part]
      let isExcluded := (arguments.values excludedDirectoryLetter).any fun pattern =>
        Pattern.isMatch (Pattern.ofEscaped pattern) name
      match files.node? place with
      | some (.directory _) =>
        if isExcluded then [] else filesBelow arguments files bound path place
      | some (.file ..) => if isWanted arguments name then [(path, place)] else []
      | some (.link _) =>
        match arguments.has 'R', files.locate [] (path' place) with
        | true, .ok target =>
          match files.node? target with
          | some (.file ..) => [(path, target)]
          | _ => []
        | _, _ => []
      | _ => []
where
  /-- The path of a place. -/
  path' (location : Location) : Path :=
    Utility.path (pathOf location)

/-- The texts that an operand names: those below a directory, if it is searched. -/
def searchedAt (arguments : Arguments) (recursive : Bool) (operand : List Char) :
    Run (List Searched × Bool) := do
  let files ← files
  match operand, recursive, files.find (← process).directory (path operand) with
  | ['-'], _, _ => do
    let name := (arguments.value? inputNameLetter).getD "(standard input)".toList
    return ([⟨name, .ok (← readAll 0)⟩], false)
  | _, true, .ok (location, .directory _) => do
    let found := filesBelow arguments files 4096 operand location
    let texts ← found.mapM fun (name, place) => do
      match files.node? place with
      | some (.file contents _) => return ⟨name, .ok (Text.octets contents)⟩
      | _ => return ⟨name, .ok []⟩
    return (texts, true)
  | _, _, _ => do
    if arguments.value? 'd' = some "skip".toList then
      if let .ok (_, .directory _) := files.find (← process).directory (path operand) then
        return ([], false)
    return ([⟨operand, ← textAt none operand⟩], false)

/-! ## Searching -/

/-- The lines of a text with the places where they begin. -/
def withOffsets (lines : List (List Char)) : List (List Char × Nat) :=
  let (found, _) := lines.foldl (fun (found, offset) line =>
    ((line, offset) :: found, offset + line.length + 1)) (([] : List (List Char × Nat)), 0)
  found.reverse

/-- Writes what is found in a text.  The result is true if something is found. -/
def searchText (arguments : Arguments) (search : Search) (style : LineStyle)
    (text : List Char) : Run Bool := do
  let limit := (arguments.value? 'm').bind Filter.number?
  let isZero := arguments.has 'z'
  let swapped (c : Char) : Char :=
    if c = '\n' then '\x00' else if c = '\x00' then '\n' else c
  let inLines (text : List Char) : List Char := if isZero then text.map swapped else text
  let text := inLines text
  let found := search.select limit text
  let nameEnd := if style.zeros then ['\x00'] else ['\n']
  let isBinary := text.contains '\x00' && !isZero && !arguments.has 'a'
  let offsets := withOffsets (lines text)
  let offsetOf (number : Nat) : Nat := ((offsets[number - 1]?).map (·.2)).getD 0
  if arguments.has 'q' then pure ()
  else if arguments.has 'l' then
    if ¬ found.isEmpty then write 1 (style.paint "35" style.label ++ nameEnd)
  else if arguments.has 'L' then
    if found.isEmpty then write 1 (style.paint "35" style.label ++ nameEnd)
  else if arguments.has 'c' then
    let start := { style with numbered := false, offsets := false, aligned := false }
    write 1 (start.start ':' 0 0 ++ decimal found.length ++ ['\n'])
  else if isBinary then
    if ¬ found.isEmpty ∧ ¬ arguments.has 'I' then
      object "grep" (style.label ++ ": binary file matches".toList)
  else if arguments.has 'o' then
    found.forM fun (number, line) => do
      let shown := if search.inverted then [] else search.matchesIn line
      write 1 (inLines (shown.flatMap fun found =>
        style.start ':' number (offsetOf number + found.opened.index)
          ++ style.paint "01;31" found.text ++ ['\n']))
  else
    let shown := Search.withContext (contextSize arguments 'B') (contextSize arguments 'A')
      (found.map (·.1)) (lines text)
    shown.forM fun line? => do
      match line? with
      | none => write 1 (style.paint "36" "--".toList ++ ['\n'])
      | some (number, line, isMeant) =>
        let sign := if isMeant then ':' else '-'
        let line := if isMeant ∧ ¬ search.inverted then
            search.highlighted (style.paint "01;31") line
          else line
        write 1 (style.start sign number (offsetOf number) ++ inLines (line ++ ['\n']))
  return !found.isEmpty

/-- The patterns that options give: those behind letters, and those in files. -/
def givenPatterns (arguments : Arguments) : Run (Except (List Char) (List (List Char))) := do
  let read (option : Char × List Char) : Run (Except (List Char) (List (List Char))) := do
    match option with
    | ('e', value) => return .ok [value]
    | ('f', value) =>
      match ← operandText value with
      | .ok text => return .ok (if text.isEmpty then [] else [withoutEnd text])
      | .error reason => return .error (cannotReadBare value reason)
    | _ => return .ok []
  let found ← arguments.options.mapM read
  let given : Except (List Char) (List (List (List Char))) := found.mapM id
  return given.map List.flatten

/-- The last letter that says how patterns are written. -/
def patternKind (arguments : Arguments) (usual : PatternKind) : PatternKind :=
  match arguments.last? ['E', 'F', 'G', 'P'] with
  | some 'E' => .extended
  | some 'F' => .fixed
  | some 'G' => .basic
  | some 'P' => .rich
  | _ => usual

/-- A number behind a dash asks for lines around those that are meant. -/
def numbersAsContext (arguments : List (List Char)) : List (List Char) :=
  let options := arguments.takeWhile (· ≠ ['-', '-'])
  (options.flatMap fun argument =>
    match argument with
    | '-' :: digits =>
      if (Filter.number? digits).isSome then [['-', 'C'], digits] else [argument]
    | _ => [argument]) ++ arguments.drop options.length

/-- Writes the lines of texts in which patterns are found. -/
def searchAll (arguments : Arguments) (patterns : List Regex) (operands : List (List Char)) :
    Run Nat := do
  let search : Search := {
    patterns
    foldsCase := arguments.has 'i' || arguments.has 'y'
    inverted := arguments.has 'v'
    wholeWords := arguments.has 'w'
    wholeLines := arguments.has 'x' }
  let recursive := arguments.has 'r' || arguments.has 'R'
    || arguments.value? 'd' == some "recurse".toList
  let operands := if operands.isEmpty ∧ recursive then [[]] else orInput operands
  let found ← operands.mapM fun operand => do
    if operand.isEmpty ∧ recursive then
      let (found, isBelow) ← searchedAt arguments recursive ['.']
      return (found.map fun searched => { searched with name := searched.name.drop 2 }, isBelow)
    else searchedAt arguments recursive operand
  let named := (1 < operands.length || found.any (·.2) || arguments.has 'H')
    && arguments.last? ['H', 'h'] != some 'h'
  let color := (arguments.value? colorLetter).map String.ofList
  let colored := color == some "always" || color == some "yes" || color == some "force"
  let results ← (found.flatMap (·.1)).mapM fun searched => do
    match searched.text with
    | .error reason => do
      if ¬ arguments.has 's' then object "grep" (cannotReadBare searched.name reason)
      return (false, true)
    | .ok text => do
      let style : LineStyle := {
        label := searched.name
        named, colored
        numbered := arguments.has 'n'
        offsets := arguments.has 'b'
        aligned := arguments.has 'T'
        zeros := arguments.has 'Z' }
      return (← searchText arguments search style text, false)
  let any := results.any (·.1)
  let failed := results.any (·.2)
  return if any ∧ (arguments.has 'q' ∨ ¬ failed) then 0 else if failed then 2 else 1

/-- Writes the lines in which a pattern is found. -/
def grep (usual : PatternKind) : Utility := fun arguments => do
  match Arguments.parse grepOptions (numbersAsContext arguments) with
  | .error misuse => misusedSearch misuse.message
  | .ok arguments => do
    match ['A', 'B', 'C'].findSome? fun letter =>
        (arguments.value? letter).filter fun value => (Filter.number? value).isNone with
    | some value => do
      object "grep" (value ++ ": invalid context length argument".toList)
      return 2
    | none =>
      match ← givenPatterns arguments with
      | .error reason => do
        object "grep" reason
        return 2
      | .ok given => do
        let isGiven := arguments.has 'e' || arguments.has 'f'
        let (given, operands) := match isGiven, arguments.operands with
          | false, first :: rest => ([first], rest)
          | _, operands => (given, operands)
        if given.isEmpty ∧ ¬ isGiven then misusedSearch []
        else
          match given.mapM (patterns (patternKind arguments usual)) with
          | .error fault => do
            object "grep" fault.message.toList
            return 2
          | .ok patterns => searchAll arguments patterns.flatten operands

end Utility
end TestCoverage.Shell
