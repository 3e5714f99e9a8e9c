/-
  TestCoverage.Shell.Editing

  The program that changes lines by a script.
-/
import TestCoverage.Filter.Edit
import TestCoverage.Shell.Filters

namespace TestCoverage.Shell

namespace Utility

open Run TestCoverage.Filter

/-! ## Options -/

/-- The letter that stands for an option with only a name, which asks for nothing else. -/
def otherLetter : Char := '\x01'

/-- The options of `sed`. -/
def sedOptions : Options where
  flags := ['n', 'E', 'r', 's', 'u', 'z', 'b', otherLetter]
  valued := ['e', 'f', 'l']
  optional := ['i']
  names := [
    ("quiet", 'n'), ("silent", 'n'), ("regexp-extended", 'E'), ("expression", 'e'), ("file", 'f'),
    ("in-place", 'i'), ("separate", 's'), ("null-data", 'z'), ("zero-terminated", 'z'),
    ("line-length", 'l'), ("unbuffered", 'u'), ("binary", 'b'), ("posix", otherLetter),
    ("follow-symlinks", otherLetter)]

/-- A part of a script: what it is called in complaints, if it is a file, and its text. -/
structure ScriptPart where
  file : Option (List Char)
  text : List Char

/-- The number of the text to which a position in all of them belongs, and the position in
    it.  There is one character between two texts. -/
def placeIn : List Nat → Nat → Nat × Nat
  | length :: next :: others, position =>
    if position ≤ length then (0, position)
    else
      let (number, position) := placeIn (next :: others) (position - length - 1)
      (number + 1, position)
  | _, position => (0, position)

/-- The place of a mistake in a script, as it is told. -/
def mistakePlace (parts : List ScriptPart) (misread : Misread) : List Char :=
  let lengths := parts.map fun part => part.text.length
  let whole := lengths.foldl (fun n length => n + length + 1) 0 - 1
  let (number, position) :=
    if misread.fault = .openBrace then (parts.length - 1, 0)
    else placeIn lengths (whole - misread.left)
  match parts[number]? with
  | some { file := some name, text } =>
    let line := (text.take (position - 1)).count '\n' + 1
    "file ".toList ++ name ++ Text.octetsOf s!" line {line}: "
  | _ =>
    let before := ((parts.take number).filter (·.file.isNone)).length
    Text.octetsOf s!"-e expression #{before + 1}, char {position}: "

/-- The parts of the script that options and operands give, and the other operands; nothing if
    a file with a script cannot be read. -/
def scriptParts (arguments : Arguments) :
    Run (Except (List Char) (List ScriptPart × List (List Char))) := do
  let given := arguments.options.filter fun (letter, _) => letter == 'e' || letter == 'f'
  let read (letter : Char) (value : List Char) : Run (Except (List Char) ScriptPart) := do
    if letter = 'e' then return .ok { file := none, text := value }
    else match ← operandText value with
      | .ok text =>
        return .ok { file := some value, text := text.take (text.length - ending text) }
      | .error reason => return .error ("couldn't open file ".toList ++ cannotReadBare value reason)
  let parts ← given.mapM fun (letter, value) => read letter value
  match parts.mapM id, arguments.operands with
  | .error complaint, _ => return .error complaint
  | .ok [], first :: rest => return .ok ([{ file := none, text := first }], rest)
  | .ok parts, operands => return .ok (parts, operands)
where
  ending (text : List Char) : Nat :=
    if text.getLast? = some '\n' then 1 else 0

/-! ## Files -/

/-- Makes the files empty that a script writes.  The reason is told if one cannot be made. -/
def makeTargets (names : List (List Char)) : Run (Option (List Char)) := do
  let failures ← names.mapM fun name => do
    match (← files).locate (← process).directory (path name) with
    | .error error =>
      return some ("couldn't open file ".toList ++ cannotReadBare name (describe error))
    | .ok location =>
      if name ≠ Editor.outputName then setContents location []
      return none
  return failures.findSome? id

/-- Writes to files what an editor has for them. -/
def writeTargets (editor : Editor) : Run Unit :=
  editor.saved.forM fun (name, outlet) => do
    if let .ok location := (← files).locate (← process).directory (path name) then
      setContents location (Text.ofOctets outlet.text)

/-- The name of the copy of a file that is kept, by a suffix: it is added, or it has the name of
    the file for each star in it. -/
def copyName (name suffix : List Char) : List Char :=
  let last := lastName name
  let before := name.take (name.length - last.length)
  if suffix.contains '*' then
    let shown := suffix.flatMap fun c => if c = '*' then last else [c]
    if shown.contains '/' then shown else before ++ shown
  else name ++ suffix
where
  lastName (name : List Char) : List Char :=
    (name.reverse.takeWhile (· ≠ '/')).reverse

/-- The lines of all operands, one file after the other, up to one that cannot be read to its
    end, and the status. -/
def linesToEdit (mark : Char) (operands : List (List Char)) :
    Run (List (List EditLine) × Nat) := do
  let (texts, status, _) ← operands.foldlM (fun (texts, status, ended) operand => do
    if ended then return (texts, status, ended)
    match ← operandText operand with
    | .ok text => return (texts ++ [Editor.linesOf mark operand text], status, false)
    | .error reason =>
      if reason = "Is a directory" then do
        object "sed" ("read error on ".toList ++ cannotReadBare operand reason)
        return (texts, 4, true)
      else do
        object "sed" ("can't read ".toList ++ cannotReadBare operand reason)
        return (texts, max status 2, false)) (([], 0, false) : List (List EditLine) × Nat × Bool)
  return (texts, status)

/-- Edits a file, and keeps a copy of it if there is a suffix for that. -/
def editInPlace (commands : List EditCommand) (suffix : List Char) (editor : Editor)
    (operand : List Char) : Run (Editor × Nat × Bool) := do
  match (← files).find (← process).directory (path operand) with
  | .ok (location, .file contents rights) => do
    let lines := Editor.linesOf editor.mark operand (Text.octets contents)
    let (editor, status) := Editor.run commands { editor with output := {} } lines
    if ¬ suffix.isEmpty then
      let copy := path (copyName operand suffix)
      if let .ok place := (← files).locate (← process).directory copy then
        updateFiles fun files => files.put place (.file contents rights)
    setContents location (Text.ofOctets editor.output.text)
    return (editor, status, editor.stopped)
  | .ok _ => do
    object "sed" ("couldn't edit ".toList ++ operand ++ ": not a regular file".toList)
    return (editor, 4, false)
  | .error error => do
    object "sed" ("can't read ".toList ++ cannotReadBare operand (describe error))
    return (editor, 2, false)

/-! ## The program -/

/-- Writes how `sed` is used, and gives its status. -/
def sedUsage (message : List Char) : Run Nat := do
  if ¬ message.isEmpty then object "sed" message
  say 2 ("Usage: sed [OPTION]... "
    ++ "\x7bscript-only-if-no-other-script\x7d [input-file]...\n")
  return 1

/-- Carries out commands for all operands. -/
def edit (arguments : Arguments) (commands : List EditCommand) (first : Editor)
    (operands : List (List Char)) : Run Nat := do
  match arguments.value? 'i' with
  | some suffix =>
    if operands.isEmpty then
      object "sed" "no input files".toList
      return 1
    let (editor, status, _) ← operands.foldlM (fun (editor, status, stopped) operand => do
      if stopped then return (editor, status, stopped)
      let (editor, next, stopped) ← editInPlace commands suffix editor operand
      return (editor, max status next, stopped)) (first, 0, false)
    writeTargets editor
    return status
  | none =>
    let (texts, status) ← linesToEdit first.mark (orInput operands)
    let inputs := if arguments.has 's' then texts else [texts.flatten]
    let (editor, last) := inputs.foldl (fun (editor, status) lines =>
      if editor.stopped then (editor, status)
      else Editor.run commands editor lines) (first, 0)
    write 1 editor.output.text
    writeTargets editor
    return if last ≠ 0 then last else status

/-- Changes lines by a script. -/
def sed : Utility := fun arguments =>
  match Arguments.parse sedOptions arguments with
  | .error misuse => sedUsage misuse.message
  | .ok arguments => do
    match ← scriptParts arguments with
    | .error complaint => do
      object "sed" complaint
      return 1
    | .ok ([], _) => sedUsage []
    | .ok (parts, operands) =>
      let extended := arguments.has 'E' || arguments.has 'r'
      let script := ['\n'].intercalate (parts.map (·.text))
      let isQuiet := arguments.has 'n' || "#n\n".toList.isPrefixOf script || script = ['#', 'n']
      match EditScript.parse extended script with
      | .error misread =>
        let place := if misread.fault.isGlobal then [] else mistakePlace parts misread
        object "sed" (place ++ misread.fault.message)
        return if misread.fault.isGlobal then 4 else 1
      | .ok commands => do
        let named ← (EditScript.filesOf commands).mapM fun name => do
          return (name, (← textAt none name).toOption.getD [])
        match ← makeTargets (EditScript.targetsOf commands) with
        | some complaint => do
          object "sed" complaint
          return 4
        | none =>
          edit arguments commands {
            isQuiet
            files := named
            mark := if arguments.has 'z' then '\x00' else '\n'
            plainWidth := ((arguments.value? 'l').bind Filter.number?).getD 70 } operands

end Utility
end TestCoverage.Shell
