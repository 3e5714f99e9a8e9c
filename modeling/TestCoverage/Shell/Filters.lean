/-
  TestCoverage.Shell.Filters

  Programs that make one text of another: they read files, or what is given to them, and
  write what they make of it.
-/
import TestCoverage.Filter.Arguments
import TestCoverage.Filter.Dump
import TestCoverage.Filter.Numbering
import TestCoverage.Filter.Order
import TestCoverage.Filter.Quoting
import TestCoverage.Filter.Width
import TestCoverage.Filter.Exchange
import TestCoverage.Shell.Utility

namespace TestCoverage.Shell

namespace Utility

open Run TestCoverage.Filter

/-! ## Arguments -/

/-- Writes a complaint of a program. -/
def object (program : String) (message : List Char) : Run Unit :=
  write 2 (program.toList ++ ": ".toList ++ message ++ ['\n'])

/-- Refuses arguments with a status. -/
def misused (program : String) (status : Nat) (message : List Char) : Run Nat := do
  object program message
  write 2 (Text.octetsOf s!"Try '{program} --help' for more information.\n")
  return status

/-- A program with options.  It ends with a status if it does not know one of them. -/
def withOptions (program : String) (status : Nat) (known : Options)
    (run : Arguments → Run Nat) : Utility := fun arguments =>
  match Arguments.parse known arguments with
  | .ok arguments => run arguments
  | .error misuse => misused program status misuse.message

/-- The arguments with the option of a letter for a number behind a dash. -/
def numberAsOption (letter : Char) (arguments : List (List Char)) : List (List Char) :=
  match arguments with
  | ('-' :: digits) :: rest =>
    if (Filter.number? digits).isSome then ['-', letter] :: digits :: rest else arguments
  | _ => arguments

/-- An argument in quotes, as complaints show it. -/
def inQuotes (text : List Char) : List Char :=
  Quoting.argument text

/-! ## Reading -/

/-- The text of a file, or why it cannot be read.  Of a file that never ends so much is read
    as is asked for. -/
def textAt (wanted : Option Nat) (argument : List Char) : Run (Except String (List Char)) := do
  match (← files).find (← process).directory (path argument) with
  | .ok (_, .device (.endless byte)) =>
    return .ok (match wanted with
      | some n => List.replicate n (Char.ofNat byte.toNat)
      | none => deviceText (.endless byte))
  | .ok (_, .device .full) =>
    return .ok (match wanted with
      | some n => List.replicate n '\x00'
      | none => deviceText .full)
  | .ok (_, .device (.descriptor number)) =>
    if (← channel? number).isNone then return .error (describe .notFound)
    else return .ok (← readAll number)
  | .ok (_, .directory _) => return .error "Is a directory"
  | .ok (_, node) => return .ok (← textOfNode node)
  | .error error => return .error (describe error)

/-- The text that an operand names.  A dash stands for what is given to the program. -/
def operandText (argument : List Char) : Run (Except String (List Char)) := do
  if argument = ['-'] then return .ok (← readAll 0) else textAt none argument

/-- The operands, or the one for what is given to the program if there are none. -/
def orInput (operands : List (List Char)) : List (List Char) :=
  if operands.isEmpty then [['-']] else operands

/-- How programs say that they cannot read a file. -/
def cannotRead (name : List Char) (reason : String) : List Char :=
  Quoting.nameIfOdd name ++ Text.octetsOf s!": {reason}"

/-- How programs that never quote names say that they cannot read a file. -/
def cannotReadBare (name : List Char) (reason : String) : List Char :=
  name ++ Text.octetsOf s!": {reason}"

/-- How some programs say that they cannot open a file. -/
def cannotOpen (name : List Char) (reason : String) : List Char :=
  if reason = "Is a directory" then
    "error reading ".toList ++ Quoting.name name ++ Text.octetsOf s!": {reason}"
  else "cannot open ".toList ++ Quoting.name name ++ Text.octetsOf s!" for reading: {reason}"

/-- The texts that can be read, and whether all of them could be. -/
def texts (program : String) (complaint : List Char → String → List Char)
    (operands : List (List Char)) : Run (List (List Char) × Bool) := do
  let found ← operands.mapM fun operand => do
    match ← operandText operand with
    | .ok text => return some text
    | .error reason => do
      object program (complaint operand reason)
      return none
  return (found.filterMap id, found.all Option.isSome)

/-- Writes what becomes of each text. -/
def mapTexts (program : String) (complaint : List Char → String → List Char)
    (operands : List (List Char)) (change : List Char → List Char) : Run Nat := do
  let statuses ← (orInput operands).mapM fun operand => do
    match ← operandText operand with
    | .ok text => do
      write 1 (change text)
      return 0
    | .error reason => do
      object program (complaint operand reason)
      return 1
  return statusOf (statuses.all (· = 0))

/-! ## Whole texts -/

/-- A character that is not shown as itself, in the way of `cat`. -/
def visible (tabs : Bool) (c : Char) : List Char :=
  let low (n : Nat) : List Char :=
    if n < 0x20 then ['^', Char.ofNat (n + 0x40)]
    else if n = 0x7F then ['^', '?']
    else [Char.ofNat n]
  if c = '\n' ∨ (c = '\t' ∧ ¬ tabs) then [c]
  else if c.toNat < 0x80 then low c.toNat
  else 'M' :: '-' :: low (c.toNat - 0x80)

/-- The options of `cat`. -/
def catOptions : Options where
  flags := ['n', 'b', 'E', 'T', 's', 'A', 'v', 'e', 't', 'u']
  names := [
    ("number", 'n'), ("number-nonblank", 'b'), ("show-ends", 'E'), ("show-tabs", 'T'),
    ("squeeze-blank", 's'), ("show-all", 'A'), ("show-nonprinting", 'v')]

/-- Writes texts one behind the other. -/
def cat : Utility :=
  withOptions "cat" 1 catOptions
    fun arguments => do
      let (found, complete) ← texts "cat" cannotRead (orInput arguments.operands)
      let all := arguments.has 'A'
      let marksEnds := all || arguments.has 'E' || arguments.has 'e'
      let marksTabs := all || arguments.has 'T' || arguments.has 't'
      let marksOthers :=
        all || arguments.has 'v' || arguments.has 'e' || arguments.has 't'
      let showLine (line : List Char) : List Char :=
        let text := withoutEnd line
        let text :=
          if marksOthers then text.flatMap (visible marksTabs)
          else if marksTabs then text.flatMap fun c => if c = '\t' then ['^', 'I'] else [c]
          else text
        text ++ (if marksEnds ∧ line.getLast? = some '\n' then ['$'] else [])
          ++ line.drop (withoutEnd line).length
      let text := found.flatten
      if arguments.options.isEmpty ∨ arguments.options.all (·.1 == 'u') then write 1 text
      else
        let kept := (groups (· == ·) (endedLines text)).flatMap fun (line, count) =>
          if arguments.has 's' ∧ line = ['\n'] then [line] else List.replicate count line
        let numbers := arguments.has 'n' || arguments.has 'b'
        let (shown, _) := kept.foldl (fun (shown, n) line =>
          if numbers ∧ ¬ (arguments.has 'b' ∧ line = ['\n']) then
            (shown ++ [alignRight 6 (decimal n) ++ '\t' :: showLine line], n + 1)
          else (shown ++ [showLine line], n)) ([], 1)
        write 1 shown.flatten
      return statusOf complete

/-- The options of `tac`. -/
def tacOptions : Options where
  flags := ['b', 'r']
  valued := ['s']
  names := [("before", 'b'), ("regex", 'r'), ("separator", 's')]

/-- Writes the lines, or other parts, in the other order. -/
def tac : Utility :=
  withOptions "tac" 1 tacOptions fun arguments =>
    let complaint (name : List Char) (reason : String) : List Char :=
      if reason = "Is a directory" then
        Quoting.nameIfOdd name ++ ": read error: Is a directory".toList
      else "failed to open ".toList ++ Quoting.name name
        ++ Text.octetsOf s!" for reading: {reason}"
    let separator := match arguments.value? 's' with
      | none => ['\n']
      | some [] => ['\x00']
      | some text => text
    mapTexts "tac" complaint arguments.operands (reverseParts separator (arguments.has 'b'))

/-- Writes the characters of each line in the other order. -/
def rev : Utility :=
  withOptions "rev" 1 {} fun arguments =>
    mapTexts "rev" (fun name reason => "cannot open ".toList ++ cannotReadBare name reason)
      arguments.operands reverseEachLine

/-- The options of `nl`. -/
def nlOptions : Options where
  flags := ['p']
  valued := ['b', 'h', 'f', 'v', 'i', 'l', 'n', 's', 'w', 'd']
  names := [
    ("body-numbering", 'b'), ("header-numbering", 'h'), ("footer-numbering", 'f'),
    ("starting-line-number", 'v'), ("line-increment", 'i'), ("join-blank-lines", 'l'),
    ("number-format", 'n'), ("number-separator", 's'), ("number-width", 'w'),
    ("section-delimiter", 'd'), ("no-renumber", 'p')]

/-- The integer that a text writes. -/
def integer? (text : List Char) : Option Int :=
  let (below, digits) := Decimal.splitSign text
  (Filter.number? digits).map fun n => if below then -n else n

/-- Which lines of a part of a page have numbers, as a text says. -/
def numberedLines? (part : String) (text : List Char) : Except (List Char × Bool) Numbered :=
  match text with
  | ['a'] => .ok .all
  | ['t'] => .ok .notEmpty
  | ['n'] => .ok .none
  | 'p' :: source =>
    match Regex.parse {} source with
    | .ok regex => .ok (.fitting regex)
    | .error fault => .error (fault.message.toList, false)
  | _ => .error (("invalid " ++ part ++ " numbering style: ").toList ++ inQuotes text, true)

/-- How lines are numbered, or what is wrong, and whether that is explained elsewhere. -/
def numberingOf (arguments : Arguments) : Except (List Char × Bool) Numbering := do
  let lines (letter : Char) (part : String) (usual : Numbered) :
      Except (List Char × Bool) Numbered :=
    match arguments.value? letter with
    | some text => numberedLines? part text
    | none => .ok usual
  let integer (letter : Char) (what : String) (low usual : Int) :
      Except (List Char × Bool) Int :=
    match arguments.value? letter with
    | none => .ok usual
    | some text =>
      match integer? text with
      | some n =>
        if low ≤ n then .ok n
        else .error (("invalid " ++ what ++ ": ").toList ++ inQuotes text
          ++ ": Numerical result out of range".toList, false)
      | none => .error (("invalid " ++ what ++ ": ").toList ++ inQuotes text, false)
  let body ← lines 'b' "body" .notEmpty
  let head ← lines 'h' "header" .none
  let foot ← lines 'f' "footer" .none
  let first ← integer 'v' "starting line number" (-(Decimal.twoTo 63 : Int)) 1
  let step ← integer 'i' "line number increment" (-(Decimal.twoTo 63 : Int)) 1
  let joined ← integer 'l' "line number of blank lines" 1 1
  let width ← integer 'w' "line number field width" 1 6
  let side ← match arguments.value? 'n' with
    | none => pure NumberSide.right
    | some ['l', 'n'] => pure NumberSide.left
    | some ['r', 'n'] => pure NumberSide.right
    | some ['r', 'z'] => pure NumberSide.zeros
    | some text => throw ("invalid line numbering format: ".toList ++ inQuotes text, true)
  let mark := match arguments.value? 'd' with
    | some [c] => [c, ':']
    | some text => text
    | none => ['\\', ':']
  return {
    head, body, foot, first, step, side, mark
    joined := joined.toNat
    width := width.toNat
    separator := (arguments.value? 's').getD ['\t']
    continues := arguments.has 'p' }

/-- Writes lines with their numbers. -/
def nl : Utility :=
  withOptions "nl" 1 nlOptions fun arguments => do
    match numberingOf arguments with
    | .error (message, true) => misused "nl" 1 message
    | .error (message, false) => do
      object "nl" message
      return 1
    | .ok numbering => do
      let (found, complete) ← texts "nl" cannotRead (orInput arguments.operands)
      write 1 (numbering.apply (found.flatMap fun text => ofLines (lines text)))
      return statusOf complete

/-- The options of `fold`. -/
def foldOptions : Options where
  flags := ['b', 's']
  valued := ['w']
  names := [("bytes", 'b'), ("spaces", 's'), ("width", 'w')]

/-- Writes lines cut at a width. -/
def fold : Utility := fun arguments =>
  withOptions "fold" 1 foldOptions (fun arguments => do
    let given := (arguments.value? 'w').getD "80".toList
    match Filter.number? given with
    | some (n + 1) =>
      let folding : Folding := {
        width := n + 1, countsBytes := arguments.has 'b', atBlanks := arguments.has 's' }
      mapTexts "fold" cannotRead arguments.operands folding.apply
    | found => do
      let reason := if found.isSome then ": Numerical result out of range" else ""
      object "fold" ("invalid number of columns: ".toList ++ inQuotes given ++ reason.toList)
      return 1) (numberAsOption 'w' arguments)

/-! ## Beginnings and ends -/

/-- The factor that letters behind a number stand for. -/
def factor? (letters : List Char) : Option Nat :=
  match String.ofList letters with
  | "" => some 1
  | "b" => some 512
  | "kB" => some 1000
  | "k" | "K" | "KiB" => some 1024
  | "MB" => some 1000000
  | "M" | "MiB" => some 1048576
  | _ => none

/-- The number that a text writes, with letters for a factor behind it. -/
def amount? (text : List Char) : Option Nat := do
  let digits := text.takeWhile Char.isDigit
  let n ← Filter.number? digits
  let factor ← factor? (text.drop digits.length)
  return n * factor

/-- The first part of a text that a value asks for. -/
def firstPortion? (value : List Char) : Option Portion :=
  match value with
  | '-' :: rest => (amount? rest).map .allButLast
  | '+' :: rest => (amount? rest).map .first
  | _ => (amount? value).map .first

/-- The last part of a text that a value asks for. -/
def lastPortion? (value : List Char) : Option Portion :=
  match value with
  | '+' :: rest => (amount? rest).map fun n => .behind (n - 1)
  | '-' :: rest => (amount? rest).map .last
  | _ => (amount? value).map .last

/-- How much is read at once. -/
def blockSize : Nat := 8192

/-- What is left of a text of which so much has been used. -/
def leftover (byBlocks : Bool) (used : Nat) (text : List Char) : List Char :=
  text.drop (if byBlocks then (used + blockSize - 1) / blockSize * blockSize else used)

/-- Writes the title of a text that is one of several. -/
def title (isFirst : Bool) (name : List Char) : Run Unit :=
  let name := if name = ['-'] then "standard input".toList else name
  write 1 ((if isFirst then [] else ['\n']) ++ "==> ".toList ++ name ++ " <==\n".toList)

/-- Writes a part of each text. -/
def portions (program : String) (portion : Portion) (byBytes : Bool) (arguments : Arguments) :
    Run Nat := do
  let operands := orInput arguments.operands
  let titled := (1 < operands.length || arguments.has 'v') && !arguments.has 'q'
  let partOf (text : List Char) : List Char :=
    if byBytes then portion.of text else portion.ofText text
  let wanted := match portion, byBytes with
    | .first n, true => some n
    | _, _ => none
  let statuses ← operands.zipIdx.mapM fun (operand, index) => do
    if operand = ['-'] then
      if titled then title (index = 0) operand
      let text ← unread 0
      let part := partOf text
      let isFirst : Bool := match portion with
        | .first _ => true
        | _ => false
      let used := if isFirst then part.length else text.length
      leaveUnread 0 (leftover (!byBytes && !(← rewinds 0)) used text)
      write 1 part
      return 0
    else
      match ← textAt wanted operand with
      | .ok text => do
        if titled then title (index = 0) operand
        write 1 (partOf text)
        return 0
      | .error reason => do
        object program (cannotOpen operand reason)
        return 1
  return statusOf (statuses.all (· = 0))

/-- The options of programs that write parts of texts. -/
def portionOptions : Options where
  flags := ['q', 'v', 'f', 'F']
  valued := ['n', 'c', 's']
  names := [
    ("lines", 'n'), ("bytes", 'c'), ("quiet", 'q'), ("silent", 'q'), ("verbose", 'v'),
    ("follow", 'f'), ("sleep-interval", 's')]

/-- Writes the part of each text that the options ask for. -/
def portionProgram (program : String) (portion? : List Char → Option Portion) : Utility :=
  fun arguments =>
    withOptions program 1 portionOptions (fun arguments => do
      let byBytes := arguments.last? ['n', 'c'] = some 'c'
      let value := (arguments.value? (if byBytes then 'c' else 'n')).getD ['1', '0']
      match portion? value with
      | some portion => portions program portion byBytes arguments
      | none => do
        let unit := if byBytes then "bytes" else "lines"
        object program (Text.octetsOf s!"invalid number of {unit}: " ++ inQuotes value)
        return 1) (numberAsOption 'n' arguments)

/-- Writes the beginnings of texts. -/
def head : Utility :=
  portionProgram "head" firstPortion?

/-- Writes the ends of texts. -/
def tail : Utility :=
  portionProgram "tail" lastPortion?

/-! ## Counting -/

/-- The counts of a text that the options ask for. -/
def countsOf (arguments : Arguments) (text : List Char) : List Nat :=
  let none := arguments.options.isEmpty
  let longest := (lines text).foldl (fun longest line => max longest line.length) 0
  (if none ∨ arguments.has 'l' then [text.count '\n'] else [])
    ++ (if none ∨ arguments.has 'w' then [countWords text] else [])
    ++ (if arguments.has 'm' then [text.length] else [])
    ++ (if none ∨ arguments.has 'c' then [text.length] else [])
    ++ (if arguments.has 'L' then [longest] else [])

/-- Counts in fields of a width, and a name behind them. -/
def countLine (width : Nat) (counts : List Nat) (name : List Char) : List Char :=
  [' '].intercalate (counts.map fun n => alignRight width (decimal n))
    ++ (if name.isEmpty then [] else ' ' :: name) ++ ['\n']

/-- The options of `wc`. -/
def wcOptions : Options where
  flags := ['l', 'w', 'm', 'c', 'L']
  names := [
    ("lines", 'l'), ("words", 'w'), ("chars", 'm'), ("bytes", 'c'), ("max-line-length", 'L')]

/-- Counts the lines, the words and the characters of texts. -/
def wc : Utility :=
  withOptions "wc" 1 wcOptions fun arguments => do
    let operands := orInput arguments.operands
    let found ← operands.mapM fun operand => do
      let isFile ← if operand = ['-'] then rewinds 0 else pure true
      match ← operandText operand with
      | .ok text => return (some (operand, text, isFile), true)
      | .error reason => do
        object "wc" (cannotRead operand reason)
        let isRead := reason = "Is a directory"
        return (if isRead then some (operand, [], false) else none, false)
    let counted := found.filterMap (·.1)
    let columns := (countsOf arguments []).length
    let total := counted.foldl (fun n (_, text, isFile) =>
      if isFile then n + text.length else n) 0
    let width :=
      if operands.length = 1 ∧ columns = 1 then 1
      else max (decimal total).length
        (if counted.all fun (_, _, isFile) => isFile then 1 else 7)
    counted.forM fun (name, text, _) =>
      write 1 (countLine width (countsOf arguments text)
        (if arguments.operands.isEmpty then [] else name))
    if 1 < operands.length then
      let all := counted.map fun (_, text, _) => countsOf arguments text
      let sums := (List.range columns).map fun column =>
        all.foldl (fun n counts => n + counts.getD column 0) 0
      write 1 (countLine width sums "total".toList)
    return statusOf (found.all (·.2))

/-! ## Order -/

/-- What the options ask for, but for the keys. -/
def sortingOf (arguments : Arguments) : Sorting where
  comparison := arguments.options.foldl (fun comparison (letter, _) =>
    (comparison.withLetter? letter).getD comparison) {}
  unique := arguments.has 'u'
  stable := arguments.has 's'

/-- The options of `sort`. -/
def sortOptions : Options where
  flags := [
    'n', 'g', 'h', 'M', 'V', 'R', 'i', 'f', 'd', 'b', 'r', 'u', 's', 'c', 'C', 'm', 'z']
  valued := ['k', 't', 'o', 'S', 'T']
  names := [
    ("numeric-sort", 'n'), ("general-numeric-sort", 'g'), ("human-numeric-sort", 'h'),
    ("month-sort", 'M'), ("version-sort", 'V'), ("random-sort", 'R'), ("ignore-nonprinting", 'i'),
    ("ignore-case", 'f'), ("dictionary-order", 'd'), ("ignore-leading-blanks", 'b'),
    ("reverse", 'r'), ("unique", 'u'), ("stable", 's'), ("check", 'c'), ("merge", 'm'),
    ("zero-terminated", 'z'), ("key", 'k'), ("field-separator", 't'), ("output", 'o'),
    ("buffer-size", 'S'), ("temporary-directory", 'T')]

/-- Writes the lines of all texts in order. -/
def sort : Utility :=
  withOptions "sort" 2 sortOptions fun arguments => do
    match (arguments.values 'k').mapM sortKey? with
    | none => do
      object "sort" "invalid number at field start".toList
      return 2
    | some keys => do
      let separator := match arguments.value? 't' with
        | some ['\\', '0'] => some '\x00'
        | some text => text.head?
        | none => none
      let sorting := { sortingOf arguments with keys, separator }
      let complaint (name : List Char) (reason : String) : List Char :=
        (if reason = "Is a directory" then "read failed: "
          else if arguments.has 'c' || arguments.has 'C' then "open failed: "
          else "cannot read: ").toList ++ cannotRead name reason
      let operands := orInput arguments.operands
      let (found, complete) ← texts "sort" complaint operands
      let swapped (c : Char) : Char :=
        if c = '\n' then '\x00' else if c = '\x00' then '\n' else c
      let inLines (text : List Char) : List Char :=
        if arguments.has 'z' then text.map swapped else text
      let all := found.flatMap fun text => lines (inLines text)
      if ¬ complete then return 2
      else if arguments.has 'c' ∨ arguments.has 'C' then
        match sorting.disorder? all with
        | none => return 0
        | some (number, line) => do
          if arguments.has 'c' then
            object "sort" (operands.headD [] ++ ':' :: decimal number
              ++ ": disorder: ".toList ++ line)
          return 1
      else
        let sorted := inLines (ofLines (sorting.sort all))
        match arguments.value? 'o' with
        | none => do
          write 1 sorted
          return 0
        | some name =>
          match (← files).locate (← process).directory (path name) with
          | .ok location => do
            setContents location (Text.ofOctets sorted)
            return 0
          | .error error => do
            object "sort" ("open failed: ".toList ++ cannotRead name (describe error))
            return 2

/-- The letter that stands for an option with only a name: all groups are shown. -/
def groupLetter : Char := '\x03'

/-- The options of `uniq`. -/
def uniqOptions : Options where
  flags := ['c', 'd', 'D', 'u', 'i', 'z', groupLetter]
  valued := ['f', 's', 'w']
  names := [
    ("count", 'c'), ("repeated", 'd'), ("all-repeated", 'D'), ("group", groupLetter),
    ("unique", 'u'), ("ignore-case", 'i'), ("zero-terminated", 'z'), ("skip-fields", 'f'),
    ("skip-chars", 's'), ("check-chars", 'w')]

/-- Where empty lines stand, as a value of an option says. -/
def groupEdges? : List Char → Option GroupEdges
  | text =>
    match String.ofList text with
    | "none" => some .nowhere
    | "prepend" => some .before
    | "separate" => some .between
    | "append" => some .behind
    | "both" => some .both
    | _ => none

/-- Writes one of equal lines that follow each other, or all of them. -/
def uniq : Utility :=
  withOptions "uniq" 1 uniqOptions fun arguments => do
    let edges (letter : Char) (usual : GroupEdges) : Option GroupEdges :=
      (arguments.value? letter).map fun text => (groupEdges? text).getD usual
    let others := arguments.has 'c' || arguments.has 'd' || arguments.has 'D' || arguments.has 'u'
    if arguments.has groupLetter ∧ others then
      misused "uniq" 1 "--group is mutually exclusive with -c/-d/-D/-u".toList
    else if arguments.has 'c' ∧ arguments.has 'D' then
      misused "uniq" 1
        "printing all duplicated lines and repeat counts is meaningless".toList
    else
      let grouping : Grouping := {
        counts := arguments.has 'c'
        showsAll := (edges groupLetter .between).or (edges 'D' .nowhere)
        onlyRepeated := arguments.has 'd' || arguments.has 'D'
        onlySingle := arguments.has 'u'
        foldsCase := arguments.has 'i'
        skippedFields := ((arguments.value? 'f').bind Filter.number?).getD 0
        skipped := ((arguments.value? 's').bind Filter.number?).getD 0
        compared := (arguments.value? 'w').bind Filter.number? }
      match arguments.operands with
      | _ :: _ :: extra :: _ => misused "uniq" 1 ("extra operand ".toList ++ inQuotes extra)
      | [input, output] =>
        match ← operandText input with
        | .error reason => do
          object "uniq" (cannotRead input reason)
          return 1
        | .ok text =>
          match (← files).locate (← process).directory (path output) with
          | .error error => do
            object "uniq" (cannotRead output (describe error))
            return 1
          | .ok location => do
            setContents location (Text.ofOctets (grouping.apply text))
            return 0
      | operands => mapTexts "uniq" cannotRead operands grouping.apply

/-! ## Columns -/

/-- The letter that stands for an option with only a name: all but the selected columns. -/
def complementLetter : Char := '\x01'

/-- The letter that stands for an option with only a name: what is written between columns. -/
def jointLetter : Char := '\x02'

/-- The options of `cut`. -/
def cutOptions : Options where
  flags := ['s', 'n', complementLetter]
  valued := ['f', 'c', 'b', 'd', jointLetter]
  names := [
    ("fields", 'f'), ("characters", 'c'), ("bytes", 'b'), ("delimiter", 'd'),
    ("only-delimited", 's'), ("complement", complementLetter), ("output-delimiter", jointLetter)]

/-- What is wrong with the ranges of an option, in words. -/
def refusedRanges (kind : Char) (fault : RangeFault) : List Char :=
  let isField := kind = 'f'
  match fault with
  | .zero =>
    (if isField then "fields" else "byte/character positions").toList
      ++ " are numbered from 1".toList
  | .decreasing => "invalid decreasing range".toList
  | .noEndpoint => "invalid range with no endpoint: -".toList
  | .twoDashes =>
    (if isField then "invalid field range" else "invalid byte or character range").toList
  | .invalid rest =>
    (if isField then "invalid field value " else "invalid byte/character position ").toList
      ++ inQuotes rest

/-- Writes the selected columns of each line. -/
def cut : Utility :=
  withOptions "cut" 1 cutOptions fun arguments =>
    match arguments.options.filter fun (letter, _) => letter ∈ ['f', 'c', 'b'] with
    | [] => misused "cut" 1 "you must specify a list of bytes, characters, or fields".toList
    | _ :: _ :: _ => misused "cut" 1 "only one list may be specified".toList
    | [(kind, value)] =>
      match ranges value, arguments.value? 'd' with
      | .error fault, _ => misused "cut" 1 (refusedRanges kind fault)
      | .ok _, some (_ :: _ :: _) =>
        misused "cut" 1 "the delimiter must be a single character".toList
      | .ok ranges, given =>
        let delimiter := ((given.bind List.head?).getD (if given.isSome then '\x00' else '\t'))
        let keeps (position : Nat) : Bool :=
          arguments.has complementLetter != isSelected ranges position
        let cutLine (line : List Char) : Option (List Char) :=
          if kind = 'f' then
            cutFields keeps delimiter ((arguments.value? jointLetter).getD [delimiter])
              (arguments.has 's') line
          else some (select keeps line)
        mapTexts "cut" cannotRead arguments.operands fun text =>
          ofLines ((lines text).filterMap cutLine)

/-! ## Characters -/

/-- The options of `tr`. -/
def trOptions : Options where
  flags := ['c', 'C', 'd', 's', 't']
  first := true
  names := [("complement", 'c'), ("delete", 'd'), ("squeeze-repeats", 's'), ("truncate-set1", 't')]

/-- Replaces or leaves out characters. -/
def tr : Utility :=
  withOptions "tr" 1 trOptions fun arguments => do
    let complements := arguments.has 'c' || arguments.has 'C'
    let deletes := arguments.has 'd'
    let squeezes := arguments.has 's'
    match arguments.operands with
    | [] => misused "tr" 1 "missing operand".toList
    | first :: others =>
      match charsOf? 0 first with
      | none => do
        object "tr" ("range-endpoints of ".toList ++ inQuotes first
          ++ " are in reverse collating sequence order".toList)
        return 1
      | some replaced =>
        let replaced := if complements then complement replaced else replaced
        match others, others.map (charsOf? replaced.length) with
        | [], _ =>
          if deletes ∨ squeezes then do
            let text ← readAll 0
            write 1 (if deletes then delete replaced text else squeeze replaced text)
            return 0
          else do
            object "tr" ("missing operand after ".toList ++ inQuotes first)
            write 2 ("Two strings must be given when translating.\n".toList)
            write 2 ("Try 'tr --help' for more information.\n".toList)
            return 1
        | [second], [some replacements] =>
          if deletes ∧ ¬ squeezes then do
            object "tr" ("extra operand ".toList ++ inQuotes second)
            write 2
              ("Only one string may be given when deleting without squeezing repeats.\n".toList)
            write 2 ("Try 'tr --help' for more information.\n".toList)
            return 1
          else if replacements.isEmpty ∧ ¬ deletes then do
            object "tr" "when not truncating set1, string2 must be non-empty".toList
            return 1
          else do
            let text ← readAll 0
            let replaced :=
              if arguments.has 't' then replaced.take replacements.length else replaced
            let changed :=
              if deletes then delete replaced text else exchange replaced replacements text
            write 1 (if squeezes then squeeze replacements changed else changed)
            return 0
        | second :: third :: _, _ =>
          misused "tr" 1 ("extra operand ".toList ++ inQuotes (if others.length = 1 then second
            else third))
        | [second], _ => do
          object "tr" ("range-endpoints of ".toList ++ inQuotes second
            ++ " are in reverse collating sequence order".toList)
          return 1

/-- The options of a dump that are letters of their own, as its kinds. -/
def dumpLetters : List (Char × DumpKind) := [
  ('a', .name), ('b', .octal 1), ('c', .character), ('d', .unsigned 2), ('o', .octal 2),
  ('s', .signed 2), ('x', .hexadecimal 2), ('i', .signed 4), ('l', .signed 8)]

/-- The options of `od`. -/
def odOptions : Options where
  flags := 'v' :: dumpLetters.map (·.1)
  valued := ['A', 't', 'N', 'j', 'w']
  names := [
    ("address-radix", 'A'), ("format", 't'), ("read-bytes", 'N'), ("skip-bytes", 'j'),
    ("output-duplicates", 'v'), ("width", 'w')]

/-- Writes the bytes of texts as numbers or names. -/
def od : Utility :=
  withOptions "od" 1 odOptions fun arguments => do
    let kinds? := arguments.options.mapM fun (letter, value) =>
      if letter = 't' then DumpKind.readAll? value.length value
      else some ((dumpLetters.filter (·.1 = letter)).map (·.2))
    let base? := match arguments.value? 'A' with
      | none | some ['o'] => some (some 8)
      | some ['d'] => some (some 10)
      | some ['x'] => some (some 16)
      | some ['n'] => some none
      | some _ => none
    match kinds?, base? with
    | some kinds, some base => do
      let (found, complete) ← texts "od" cannotRead (orInput arguments.operands)
      if found.isEmpty then return 1
      let skipped := ((arguments.value? 'j').bind amount?).getD 0
      let bytes := found.flatten.drop skipped
      let bytes := match (arguments.value? 'N').bind amount? with
        | some n => bytes.take n
        | none => bytes
      let dump : Dump := {
        kinds := if kinds.flatten.isEmpty then [.octal 2] else kinds.flatten
        base
        perLine := max 1 (((arguments.value? 'w').bind Filter.number?).getD 16)
        showsAll := arguments.has 'v' }
      write 1 (dump.write skipped bytes)
      return statusOf complete
    | _, _ => do
      object "od" ("invalid type string ".toList
        ++ inQuotes ((arguments.value? 't').getD ((arguments.value? 'A').getD [])))
      return 1

end Utility
end TestCoverage.Shell
