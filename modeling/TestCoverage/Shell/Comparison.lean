/-
  TestCoverage.Shell.Comparison

  Programs that compare files and directories.
-/
import TestCoverage.Filter.Report
import TestCoverage.Shell.Pattern
import TestCoverage.Shell.Transfer

namespace TestCoverage.Shell

namespace Utility

open Run TestCoverage.Filter

/-- Refuses arguments with the status for trouble, and names the program in each line. -/
def misusedHere (program : String) (message : List Char) : Run Nat := do
  object program message
  object program ("Try '".toList ++ program.toList ++ " --help' for more information.".toList)
  return 2

/-- A program with options that names itself in each line of its complaints. -/
def withOptionsHere (program : String) (known : Options) (run : Arguments → Run Nat) : Utility :=
  fun arguments =>
    match Arguments.parse known arguments with
    | .ok arguments => run arguments
    | .error misuse => misusedHere program misuse.message

/-! ## Byte by byte -/

/-- The options of `cmp`. -/
def cmpOptions : Options where
  flags := ['s', 'l', 'b']
  valued := ['n', 'i']
  names := [("silent", 's'), ("quiet", 's'), ("verbose", 'l'), ("print-bytes", 'b'),
    ("bytes", 'n'), ("ignore-initial", 'i')]

/-- A byte in octal digits, at the end of three places. -/
def octalByte (c : Char) : List Char :=
  alignRight 3 (Nat.toDigits 8 c.toNat)

/-- How two texts with names differ, or nothing if they do not. -/
def byteReport (arguments : Arguments) (first second : List Char) (a b : List Char) :
    List Char × List Char :=
  let showsBytes := arguments.has 'b'
  match firstDifference a b 1 1 false with
  | .none => ([], [])
  | .byte place line =>
    let bytes := match a[place - 1]?, b[place - 1]? with
      | some c, some d =>
        " is ".toList ++ octalByte c ++ ' ' :: visible true c ++ ' ' :: octalByte d
          ++ ' ' :: visible true d
      | _, _ => []
    (first ++ ' ' :: second ++ (if showsBytes then " differ: byte " else " differ: char ").toList
      ++ decimal place ++ ", line ".toList ++ decimal line ++ (if showsBytes then bytes else [])
      ++ ['\n'], [])
  | .ended isFirst bytes line inLine =>
    let name := if isFirst then first else second
    let place :=
      if bytes = 0 then " which is empty".toList
      else if arguments.has 'l' then " after byte ".toList ++ decimal bytes
      else if inLine then
        " after byte ".toList ++ decimal bytes ++ ", in line ".toList ++ decimal line
      else " after byte ".toList ++ decimal bytes ++ ", line ".toList ++ decimal (line - 1)
    ([], "EOF on ".toList ++ name ++ place)

/-- All bytes that differ, with their places. -/
def byteList (arguments : Arguments) (a b : List Char) : List Char :=
  let width := (decimal (min a.length b.length)).length
  ofLines ((differingBytes a b 1).map fun (place, c, d) =>
    let shown (c : Char) : List Char :=
      if arguments.has 'b' then
        let text := visible true c
        octalByte c ++ ' ' :: text ++ List.replicate (4 - text.length) ' '
      else octalByte c
    let line := alignRight width (decimal place) ++ ' ' :: shown c ++ ' ' :: shown d
    (line.reverse.dropWhile (· = ' ')).reverse)

/-- Compares two files byte by byte. -/
def cmp : Utility :=
  withOptionsHere "cmp" cmpOptions fun arguments => do
    match arguments.operands with
    | [] => misusedHere "cmp" "missing operand after 'cmp'".toList
    | first :: others => do
      let second := others.headD ['-']
      let skips := match arguments.value? 'i' with
        | some text => (Text.pieces ':' text)
        | none => others.drop 1
      let skip (i : Nat) : Nat := ((skips[i]?).bind amount?).getD 0
      let skipSecond := if (arguments.value? 'i').isSome ∧ skips.length = 1 then skip 0 else skip 1
      let limited (text : List Char) : List Char := match (arguments.value? 'n').bind amount? with
        | some n => text.take n
        | none => text
      match ← operandText first, ← operandText second with
      | .ok a, .ok b => do
        let a := limited (a.drop (skip 0))
        let b := limited (b.drop skipSecond)
        let (report, complaint) := byteReport arguments first second a b
        if report.isEmpty ∧ complaint.isEmpty then return 0
        if ¬ arguments.has 's' then
          if arguments.has 'l' then write 1 (byteList arguments a b) else write 1 report
          if ¬ complaint.isEmpty then object "cmp" complaint
        return 1
      | .error reason, _ => do
        if ¬ arguments.has 's' then object "cmp" (cannotReadBare first reason)
        return 2
      | _, .error reason => do
        if ¬ arguments.has 's' then object "cmp" (cannotReadBare second reason)
        return 2

/-! ## Line by line -/

/-- The letter for the names that are shown for files. -/
def labelLetter : Char := '\x01'

/-- The letter for lines without carriage returns. -/
def withoutReturnLetter : Char := '\x02'

/-- The options of `diff`. -/
def diffOptions : Options where
  flags := ['q', 's', 'i', 'w', 'b', 'B', 'a', 'r', 'N', 'u', 'e', 'E', 'Z', 't', 'T', 'd', 'p',
    withoutReturnLetter, 'h', 'H'] ++ "0123456789".toList
  valued := ['U', 'L', 'x', 'I', labelLetter]
  names := [("brief", 'q'), ("report-identical-files", 's'), ("ignore-case", 'i'),
    ("ignore-all-space", 'w'), ("ignore-space-change", 'b'), ("ignore-blank-lines", 'B'),
    ("text", 'a'), ("recursive", 'r'), ("new-file", 'N'), ("unified", 'u'), ("ed", 'e'),
    ("label", labelLetter), ("normal", 'h'), ("minimal", 'd'), ("exclude", 'x'),
    ("strip-trailing-cr", withoutReturnLetter), ("ignore-trailing-space", 'Z')]

/-- How the arguments want lines to be compared. -/
def likenessOf (arguments : Arguments) : Likeness where
  ignoresCase := arguments.has 'i'
  ignoresSpace := arguments.has 'w'
  ignoresAmount := arguments.has 'b' || arguments.has 'Z'
  ignoresEmpty := arguments.has 'B'

/-- How many lines are shown around changes, if they are shown with others at all. -/
def contextOf? (arguments : Arguments) : Option Nat :=
  let digits := (arguments.options.map (·.1)).filter Char.isDigit
  match arguments.value? 'U', arguments.value? 'u' with
  | some n, _ => Filter.number? n
  | none, some n => some ((Filter.number? (n ++ digits)).getD 3)
  | none, none => none

/-- The time that is shown for all files. -/
def fileTime : List Char :=
  "1970-01-01 00:00:00.000000000 +0000".toList

/-- The differences of two texts with names, and whether there are any. -/
def differenceText (arguments : Arguments) (first second : List Char) (a b : List Char) :
    List Char × Bool :=
  let prepare (text : List Char) : List (List Char) :=
    (endedLines text).map fun line =>
      if arguments.has withoutReturnLetter ∧ ['\r', '\n'].isSuffixOf line then
        line.take (line.length - 2) ++ ['\n']
      else line
  let isBinary := !arguments.has 'a' && (a.contains '\x00' || b.contains '\x00')
  let old := prepare a
  let new := prepare b
  let likeness := likenessOf arguments
  let around := (contextOf? arguments).getD 0
  let all := if isBinary then [] else changes likeness.key around old new
  let changes := all.filter (likeness.counts old new)
  let differ := if isBinary then a ≠ b else ¬ changes.isEmpty
  if ¬ differ then
    (if arguments.has 's' then
      "Files ".toList ++ first ++ " and ".toList ++ second ++ " are identical\n".toList
    else [], false)
  else if arguments.has 'q' then
    ("Files ".toList ++ first ++ " and ".toList ++ second ++ " differ\n".toList, true)
  else if isBinary then
    ("Binary files ".toList ++ first ++ " and ".toList ++ second ++ " differ\n".toList, true)
  else match contextOf? arguments with
    | some context =>
      let labels := arguments.values 'L' ++ arguments.values labelLetter
      let head (mark : String) (label? : Option (List Char)) (name : List Char) : List Char :=
        mark.toList ++ label?.getD (name ++ '\t' :: fileTime) ++ ['\n']
      let groups := (together context all).filter fun group =>
        group.any (likeness.counts old new)
      (head "--- " labels[0]? first ++ head "+++ " labels[1]? second
        ++ groups.flatMap (groupText context old new), true)
    | none =>
      (if arguments.has 'e' then editorText new changes
      else changes.flatMap (Change.text old new), true)

/-- The node at a path, if there is one. -/
def nodeNamed? (operand : List Char) : Run (Except FileError Node) := do
  if operand = ['-'] then return .ok (.file [] Rights.ofFile)
  return ((← files).find (← process).directory (path operand)).map (·.2)

/-- The kind of a node, as it is told when two kinds do not fit. -/
def comparedKind (node : Node) : List Char :=
  if node.isDirectory then "directory".toList else (kindOfFile node).toList
where
  /-- The kind of what is not a directory. -/
  kindOfFile : Node → String
    | .file [] _ => "regular empty file"
    | .device _ => "character special file"
    | _ => "regular file"

/-- The text of a file to be compared; nothing if it is not there and that does not matter. -/
def comparedText (arguments : Arguments) (operand : List Char) :
    Run (Except String (List Char)) := do
  match ← operandText operand with
  | .ok text => return .ok text
  | .error reason =>
    if arguments.has 'N' ∧ reason = describe .notFound then return .ok [] else return .error reason

/-- Compares two files, behind a line that tells their names if that is wanted. -/
def diffFiles (arguments : Arguments) (head first second : List Char) : Run Nat := do
  match ← comparedText arguments first, ← comparedText arguments second with
  | .ok a, .ok b => do
    let (text, differ) := differenceText arguments first second a b
    if differ ∧ ¬ arguments.has 'q' then write 1 head
    write 1 text
    return if differ then 1 else 0
  | a, b => do
    for (operand, text) in [(first, a), (second, b)] do
      if let .error reason := text then object "diff" (cannotReadBare operand reason)
    return 2

/-- The names in a directory. -/
def namesAt (operand : List Char) : Run (List (List Char)) := do
  match (← files).find (← process).directory (path operand) with
  | .ok (location, _) => return ((← files).namesIn location).map Text.octets
  | .error _ => return []

/-- Compares two directories, and with `-r` those in them, down to a depth.  The head begins
    the line before the differences of two files. -/
def diffDirectories (arguments : Arguments) (head : List Char) :
    Nat → List Char → List Char → Run Nat
  | 0, _, _ => return 2
  | depth + 1, first, second => do
    let olds ← namesAt first
    let news ← namesAt second
    let excluded := (arguments.values 'x').map Pattern.ofEscaped
    let names := ((olds ++ news).eraseDups.mergeSort fun a b => compareTexts a b != .gt).filter
      fun name => !excluded.any (Pattern.isMatch · name)
    let statuses ← names.mapM fun name => do
      let old := pathIn first name
      let new := pathIn second name
      let line := head ++ ' ' :: old ++ ' ' :: new ++ ['\n']
      let only (directory : List Char) : Run Nat := do
        write 1 ("Only in ".toList ++ directory ++ ": ".toList ++ name ++ ['\n'])
        return 1
      match ← nodeNamed? old, ← nodeNamed? new with
      | .ok (.directory _), .ok (.directory _) =>
        if arguments.has 'r' then diffDirectories arguments head depth old new
        else
          write 1 ("Common subdirectories: ".toList ++ old ++ " and ".toList ++ new ++ ['\n'])
          return 0
      | .error _, .ok node =>
        if arguments.has 'N' ∧ ¬ node.isDirectory then diffFiles arguments line old new
        else only second
      | .ok node, .error _ =>
        if arguments.has 'N' ∧ ¬ node.isDirectory then diffFiles arguments line old new
        else only first
      | .ok a, .ok b =>
        if a.isDirectory = b.isDirectory then diffFiles arguments line old new
        else
          write 1 ("File ".toList ++ old ++ " is a ".toList ++ comparedKind a
            ++ " while file ".toList ++ new ++ " is a ".toList ++ comparedKind b ++ ['\n'])
          return 1
      | .error _, .error _ => return 2
    return statuses.foldl max 0

/-- Compares two files or directories line by line. -/
def diff : Utility := fun given =>
  withOptionsHere "diff" diffOptions (fun arguments => do
    match arguments.operands with
    | [] | [_] =>
      misusedHere "diff"
        ("missing operand after ".toList ++ inQuotes (given.getLast?.getD "diff".toList))
    | [first, second] => do
      let letters := given.filter fun argument => argument.head? = some '-' ∧ argument ≠ ['-']
      let head := [' '].intercalate ("diff".toList :: letters)
      let old ← nodeNamed? first
      let new ← nodeNamed? second
      match old, new with
      | .error error, .ok (.directory _) =>
        object "diff" (cannotReadBare first (describe error))
        return 2
      | .ok (.directory _), .error error =>
        object "diff" (cannotReadBare second (describe error))
        return 2
      | .ok (.directory _), .ok (.directory _) =>
        diffDirectories arguments head maxNesting first second
      | .ok (.directory _), .ok _ =>
        diffFiles arguments [] (pathIn first (lastPart second)) second
      | .ok _, .ok (.directory _) =>
        diffFiles arguments [] first (pathIn second (lastPart first))
      | _, _ => diffFiles arguments [] first second
    | _ :: _ :: extra :: _ =>
      misusedHere "diff" ("extra operand ".toList ++ inQuotes extra)) given

end Utility
end TestCoverage.Shell
