/-
  TestCoverage.Filter.EditScript

  Scripts of a stream editor: commands, each for the lines that its addresses mean, and how
  they are written.

  A script that is wrong is refused with the reason and with the place that had been reached
  when it showed.
-/
import TestCoverage.Filter.Exchange
import TestCoverage.Filter.Lines
import TestCoverage.Filter.Regex

namespace TestCoverage.Filter

/-! ## Scripts -/

/-- Which lines are meant. -/
inductive Address where
  | line (number : Nat)
  | last
  /-- every so many lines from the first one on -/
  | every (first step : Nat)
  /-- a pattern; the last one that was used if there is none -/
  | pattern (regex : Option Regex) (foldsCase : Bool)
  /-- so many lines behind the beginning of a range -/
  | further (count : Nat)
  /-- the next line whose number is a multiple of this one -/
  | multiple (number : Nat)
deriving Repr

/-- The case into which characters are brought. -/
inductive Casing where
  | upper
  | lower
deriving DecidableEq, Repr

/-- Brings a character into a case. -/
def Casing.apply : Casing → Char → Char
  | upper, c => c.toUpper
  | lower, c => c.toLower

/-- A part of a replacement. -/
inductive Substitute where
  | text (text : List Char)
  /-- what a group has matched; the group zero is the whole match -/
  | group (number : Nat)
  /-- the case of all that follows, if it is brought into one -/
  | casing (casing : Option Casing)
  /-- the case of the next character -/
  | nextCasing (casing : Casing)
deriving DecidableEq, Repr

/-- How a match is replaced. -/
structure Substitution where
  regex : Option Regex
  foldsCase : Bool := false
  parts : List Substitute := []
  /-- the first match that is replaced -/
  number : Nat := 1
  /-- all matches from there on are replaced -/
  all : Bool := false
  prints : Bool := false
  /-- the ends of lines in the working space count as its ends -/
  byLine : Bool := false
  /-- the file to which the working space is written -/
  target : Option (List Char) := none
deriving Repr

/-- What is done. -/
inductive EditAction where
  | substitute (substitution : Substitution)
  | replaceEach (old new : List Char)
  | delete
  | deleteFirst
  | print
  | printFirst
  /-- in letters that can be read, in lines of a width if one is given -/
  | printPlainly (width : Option Nat)
  | number
  /-- the name of the file that the line is from -/
  | source
  | next
  | append
  | keep (adds : Bool)
  | fetch (adds : Bool)
  | exchange
  | empty
  | behind (text : List Char)
  | before (text : List Char)
  | change (text : List Char)
  /-- the text of a file behind the line -/
  | file (name : List Char)
  /-- the next line of a file behind the line -/
  | lineOf (name : List Char)
  /-- the working space to a file, or only its first line -/
  | save (name : List Char) (onlyFirst : Bool)
  | quit (prints : Bool) (status : Nat)
  | jump (label : List Char)
  | jumpIfReplaced (label : List Char)
  | jumpUnlessReplaced (label : List Char)
  | label (name : List Char)
  | open'
  | close
deriving Repr

/-- A command: what is done, and for which lines. -/
structure EditCommand where
  addresses : List Address := []
  negated : Bool := false
  action : EditAction
deriving Repr

/-! ## Mistakes -/

/-- What is wrong with a script. -/
inductive EditFault where
  /-- the delimiter behind the parts of a command is missing -/
  | openCommand (letter : Char)
  | openAddress
  | unknownOption
  | repeatedOption (letter : Char)
  | repeatedNumber
  | zeroNumber
  | noFileName
  | extra
  | unequalLengths
  | unknown (letter : Char)
  | openBrace
  | closedBrace
  | comma
  | noCommand
  | repeatedNegation
  | noText
  | noLabel
  | unknownLabel (name : List Char)
  | noGroup (number : Nat)
  | relativeFirst
  | lineZero
  | oneAddress
  | pattern (fault : Regex.Fault)
deriving DecidableEq, Repr

/-- What is wrong, in words. -/
def EditFault.message : EditFault → List Char
  | openCommand letter => "unterminated `".toList ++ letter :: "' command".toList
  | openAddress => "unterminated address regex".toList
  | unknownOption => "unknown option to `s'".toList
  | repeatedOption letter => "multiple `".toList ++ letter :: "' options to `s' command".toList
  | repeatedNumber => "multiple number options to `s' command".toList
  | zeroNumber => "number option to `s' command may not be zero".toList
  | noFileName => "missing filename in r/R/w/W commands".toList
  | extra => "extra characters after command".toList
  | unequalLengths => "strings for `y' command are different lengths".toList
  | unknown letter => "unknown command: `".toList ++ [letter, '\u0027']
  | openBrace => "unmatched `\x7b'".toList
  | closedBrace => "unexpected `\x7d'".toList
  | comma => "unexpected `,'".toList
  | noCommand => "missing command".toList
  | repeatedNegation => "multiple `!'s".toList
  | noText => "expected \\ after `a', `c' or `i'".toList
  | noLabel => "\":\" lacks a label".toList
  | unknownLabel name => "can't find label for jump to `".toList ++ name ++ ['\u0027']
  | noGroup number =>
    "invalid reference \\".toList ++ decimal number ++ " on `s' command's RHS".toList
  | relativeFirst => "invalid usage of +N or ~N as first address".toList
  | lineZero => "invalid usage of line address 0".toList
  | oneAddress => "command only uses one address".toList
  | pattern fault => fault.message.toList

/-- The mistake is not seen at a place of the script, but only when all of it is there. -/
def EditFault.isGlobal : EditFault → Bool
  | unknownLabel _ | pattern .classAlone => true
  | _ => false

/-- A mistake, and how many characters had not been read when it showed. -/
structure Misread where
  fault : EditFault
  left : Nat
deriving DecidableEq, Repr

/-- A reader of a part of a script: what it has read, and the text behind it. -/
abbrev EditReader (α : Type) := List Char → Except Misread (α × List Char)

/-! ## Reading scripts -/

namespace EditScript

/-- A mistake that shows in front of the given text. -/
def mistaken {α : Type} (fault : EditFault) (rest : List Char) : Except Misread α :=
  .error ⟨fault, rest.length⟩

/-- Where a character of a pattern stands, with regard to brackets. -/
inductive Spot where
  | outside
  /-- behind an opening bracket -/
  | opened
  /-- behind an opening bracket and the sign that negates -/
  | negated
  | inside
  /-- in the name of a class -/
  | named
deriving DecidableEq, Repr

/-- Where the character behind this one stands.  A closing bracket that comes first closes
    nothing. -/
def Spot.after (spot : Spot) (c : Char) (rest : List Char) : Spot :=
  match spot with
  | outside => if c = '[' then opened else outside
  | named => if c = ':' ∧ rest.head? = some ']' then opened else named
  | opened | negated | inside =>
    if c = '[' ∧ rest.head? = some ':' then named
    else if spot = opened ∧ c = '^' then negated
    else if spot = inside ∧ c = ']' then outside
    else inside

/-- Reads text up to a delimiter.  A backslash takes away the meaning of the delimiter, and
    in a pattern brackets keep it.  The bound is the length of the text. -/
def readDelimited (fault : EditFault) (delimiter : Char) (isPattern : Bool) :
    Nat → Spot → EditReader (List Char)
  | 0, _, _ | _, _, [] => mistaken fault []
  | bound + 1, spot, c :: rest =>
    if c = delimiter ∧ spot = .outside then .ok ([], rest)
    else if c = '\\' ∧ (spot = .outside ∨ rest.head? = some 'n') then
      match rest with
      | d :: rest =>
        (readDelimited fault delimiter isPattern bound spot rest).map fun (text, rest) =>
          (if d = delimiter then d :: text
          else if d = 'n' then '\n' :: text
          else c :: d :: text, rest)
      | [] => mistaken fault []
    else
      let spot := if isPattern then spot.after c rest else spot
      (readDelimited fault delimiter isPattern bound spot rest).map fun (text, rest) =>
        (c :: text, rest)

/-- The character whose number stands behind a letter for a base, and the text behind it. -/
def readNumbered? : List Char → Option (Char × List Char)
  | letter :: rest =>
    let read? (base count : Nat) (isDigit : Char → Bool) : Option (Char × List Char) :=
      let digits := (rest.take count).takeWhile isDigit
      if digits.isEmpty then none
      else
        let digitValue (c : Char) : Nat :=
          if c.isDigit then c.toNat - '0'.toNat else c.toLower.toNat - 'a'.toNat + 10
        let value := digits.foldl (fun n c => n * base + digitValue c) 0
        some (Char.ofNat (value % 256), rest.drop digits.length)
    match letter with
    | 'x' => read? 16 2 fun c => c.isDigit || ('a' ≤ c.toLower && c.toLower ≤ 'f')
    | 'o' => read? 8 3 fun c => '0' ≤ c && c ≤ '7'
    | 'd' => read? 10 3 Char.isDigit
    | _ => none
  | [] => none

/-- A text in which the letters for control characters behind a backslash are replaced.  The
    bound is the length of the text. -/
def withControls : Nat → List Char → List Char
  | 0, text => text
  | bound + 1, '\\' :: c :: rest =>
    if c ∈ ['t', 'f', 'v', 'a', 'r'] then controlLetter c :: withControls bound rest
    else match readNumbered? (c :: rest) with
    | some (char, rest) => char :: withControls bound rest
    | none => '\\' :: c :: withControls bound rest
  | bound + 1, c :: rest => c :: withControls bound rest
  | _, [] => []

/-- The pattern that a text writes; an empty one is the last one that was used.  A mistake in
    it shows in front of the given text. -/
def pattern (extended byLine : Bool) (text rest : List Char) : Except Misread (Option Regex) :=
  if text.isEmpty then .ok none
  else match Regex.parse { extended, byLine } (withControls text.length text) with
  | .ok regex => .ok (some regex)
  | .error fault => mistaken (.pattern fault) rest

/-- The parts of a replacement.  The bound is the length of the text. -/
def substitutes : Nat → List Char → List Substitute
  | 0, _ | _, [] => []
  | bound + 1, '&' :: rest => .group 0 :: substitutes bound rest
  | bound + 1, '\\' :: c :: rest =>
    match c with
    | 'U' => .casing (some .upper) :: substitutes bound rest
    | 'L' => .casing (some .lower) :: substitutes bound rest
    | 'E' => .casing none :: substitutes bound rest
    | 'u' => .nextCasing .upper :: substitutes bound rest
    | 'l' => .nextCasing .lower :: substitutes bound rest
    | _ =>
      if c.isDigit then .group (c.toNat - '0'.toNat) :: substitutes bound rest
      else match readNumbered? (c :: rest) with
      | some (char, rest) => .text [char] :: substitutes bound rest
      | none => .text [if c = '\n' then c else controlLetter c] :: substitutes bound rest
  | bound + 1, c :: rest => .text [c] :: substitutes bound rest

/-- The text without blanks at its beginning. -/
def skipBlanks (text : List Char) : List Char :=
  text.dropWhile fun c => c == ' ' || c == '\t'

/-- Reads the end of a command: the end of the line, or a sign that begins something else. -/
def readEnd (text : List Char) : Except Misread (List Char) :=
  match skipBlanks text with
  | [] => .ok []
  | c :: rest =>
    if c = '\n' ∨ c = ';' then .ok rest
    else if c = '\x7d' ∨ c = '#' then .ok (c :: rest)
    else mistaken .extra rest

/-- Reads the name of a file, which goes on to the end of the line. -/
def readName (text : List Char) : Except Misread (List Char × List Char) :=
  let text := skipBlanks text
  let name := text.takeWhile (· ≠ '\n')
  if name.isEmpty then mistaken .noFileName text else .ok (name, text.drop name.length)

/-- Reads the letters and the number behind a replacement, to the end of the command.  There
    are fewer of them than the bound. -/
def readFlags : Nat → Bool → Substitution → EditReader Substitution
  | 0, _, _, text => mistaken .unknownOption text
  | bound + 1, isNumbered, substitution, text =>
    match text with
    | [] => .ok (substitution, [])
    | c :: rest =>
      if c = 'g' then
        if substitution.all then mistaken (.repeatedOption c) rest
        else readFlags bound isNumbered { substitution with all := true } rest
      else if c = 'p' then
        if substitution.prints then mistaken (.repeatedOption c) rest
        else readFlags bound isNumbered { substitution with prints := true } rest
      else if c = 'i' ∨ c = 'I' then
        readFlags bound isNumbered { substitution with foldsCase := true } rest
      else if c = 'm' ∨ c = 'M' then
        readFlags bound isNumbered { substitution with byLine := true } rest
      else if c.isDigit then
        let digits := text.takeWhile Char.isDigit
        let number := (number? digits).getD 0
        let rest := text.drop digits.length
        if isNumbered then mistaken .repeatedNumber rest
        else if number = 0 then mistaken .zeroNumber rest
        else readFlags bound true { substitution with number } rest
      else if c = ' ' then readFlags bound isNumbered substitution rest
      else if c = '\n' ∨ c = ';' then .ok (substitution, rest)
      else if c = '\x7d' ∨ c = '#' then .ok (substitution, text)
      else if c = 'w' then do
        let (name, rest) ← readName rest
        return ({ substitution with target := some name }, rest)
      else mistaken .unknownOption rest

/-- Reads an address, if one stands here. -/
def readAddress (extended : Bool) (text : List Char) :
    Except Misread (Option Address × List Char) :=
  let ofPattern (delimiter : Char) (rest : List Char) :
      Except Misread (Option Address × List Char) := do
    let (text, rest) ← readDelimited .openAddress delimiter true rest.length .outside rest
    let flags := rest.takeWhile fun c => c == 'I' || c == 'M'
    let rest := rest.drop flags.length
    let regex ← pattern extended (flags.contains 'M') text rest
    return (some (.pattern regex (flags.contains 'I')), rest)
  let digitsOf (rest : List Char) : Nat × List Char :=
    let digits := rest.takeWhile Char.isDigit
    ((number? digits).getD 0, rest.drop digits.length)
  match text with
  | '$' :: rest => .ok (some .last, rest)
  | '/' :: rest => ofPattern '/' rest
  | '\\' :: delimiter :: rest => ofPattern delimiter rest
  | '+' :: rest => let (count, rest) := digitsOf rest; .ok (some (.further count), rest)
  | '~' :: rest => let (number, rest) := digitsOf rest; .ok (some (.multiple number), rest)
  | c :: _ =>
    if c.isDigit then
      match digitsOf text with
      | (first, '~' :: rest) =>
        let (step, rest) := digitsOf rest
        .ok (some (.every first step), rest)
      | (number, rest) => .ok (some (.line number), rest)
    else .ok (none, text)
  | [] => .ok (none, [])

/-- Reads the addresses of a command. -/
def readAddresses (extended : Bool) (text : List Char) :
    Except Misread (List Address × List Char) := do
  let (first?, rest) ← readAddress extended text
  match first? with
  | none => return ([], rest)
  | some (.further _) | some (.multiple _) => mistaken .relativeFirst rest
  | some first =>
    match skipBlanks rest with
    | ',' :: behind =>
      let behind := skipBlanks behind
      match ← readAddress extended behind with
      | (some final, rest) => return ([first, final], rest)
      | (none, _) => mistaken .comma (behind.drop 1)
    | rest => return ([first], rest)

/-- Reads the text of a command that adds text: the rest of the line without the blanks
    before it, or what stands behind a backslash, on the same line or the next.  A backslash at
    the end of a line joins it to the next. -/
def readText (text : List Char) : Except Misread (List Char × List Char) :=
  match skipBlanks text with
  | [] => mistaken .noText []
  | ['\\'] => .ok ([], [])
  | c :: rest =>
    let text :=
      if c = '\\' then
        match skipBlanks rest with
        | '\n' :: behind => behind
        | _ => rest
      else c :: rest
    let (shown, rest, _) := text.foldl (fun (shown, rest, ended, escaped) c =>
        if ended then (shown, c :: rest, true, false)
        else if escaped then (controlLetter c :: shown, rest, false, false)
        else if c = '\\' then (shown, rest, false, true)
        else if c = '\n' then (shown, rest, true, false)
        else (c :: shown, rest, false, false)) ([], [], false, false)
    .ok (shown.reverse ++ ['\n'], rest.reverse)

/-- Reads a label or a status, and the end of the command. -/
def readWord (text : List Char) : Except Misread (List Char × List Char) := do
  let text := skipBlanks text
  let word := text.takeWhile fun c => c != '\n' && c != ';' && c != '\x7d' && c != ' '
  return (word, ← readEnd (text.drop word.length))

/-- Reads a status, and the end of the command. -/
def readStatus (text : List Char) : Except Misread (Nat × List Char) := do
  let text := skipBlanks text
  let digits := text.takeWhile Char.isDigit
  return ((number? digits).getD 0, ← readEnd (text.drop digits.length))

/-- Reads a replacement of matches from behind its letter. -/
def readSubstitution (extended : Bool) : EditReader EditAction
  | [] => mistaken (.openCommand 's') []
  | delimiter :: rest => do
    let fault := EditFault.openCommand 's'
    let (text, rest) ← readDelimited fault delimiter true rest.length .outside rest
    let (new, rest) ← readDelimited fault delimiter false (rest.length + 1) .outside rest
    let parts := substitutes new.length new
    let (substitution, rest) ← readFlags (rest.length + 1) false { regex := none, parts } rest
    let regex ← pattern extended substitution.byLine text rest
    let count := (regex.map Regex.groupCount).getD 9
    let missing := parts.findSome? fun part =>
      match part with
      | .group number => if count < number then some number else none
      | _ => none
    match missing with
    | some number => mistaken (.noGroup number) rest
    | none => return (.substitute { substitution with regex }, rest)

/-- Reads an exchange of characters from behind its letter. -/
def readExchange : EditReader EditAction
  | [] => mistaken (.openCommand 'y') []
  | delimiter :: rest => do
    let fault := EditFault.openCommand 'y'
    let (old, rest) ← readDelimited fault delimiter false rest.length .outside rest
    let (new, rest) ← readDelimited fault delimiter false (rest.length + 1) .outside rest
    let old := (unescaped old.length old).map (·.1)
    let new := (unescaped new.length new).map (·.1)
    if old.length = new.length then return (.replaceEach old new, ← readEnd rest)
    else mistaken .unequalLengths rest

/-- What is done by a command that is only a letter. -/
def plainAction? : Char → Option EditAction
  | 'd' => some .delete
  | 'D' => some .deleteFirst
  | 'p' => some .print
  | 'P' => some .printFirst
  | '=' => some .number
  | 'n' => some .next
  | 'N' => some .append
  | 'h' => some (.keep false)
  | 'H' => some (.keep true)
  | 'g' => some (.fetch false)
  | 'G' => some (.fetch true)
  | 'x' => some .exchange
  | 'z' => some .empty
  | 'F' => some .source
  | '\x7d' => some .close
  | _ => none

/-- Reads what is done from behind its letter, to the end of the command. -/
def readAction (extended : Bool) (letter : Char) (text : List Char) :
    Except Misread (EditAction × List Char) :=
  match plainAction? letter with
  | some action => (readEnd text).map (action, ·)
  | none =>
    match letter with
    | '\x7b' => .ok (.open', text)
    | 's' => readSubstitution extended text
    | 'y' => readExchange text
    | 'a' => (readText text).map fun (text, rest) => (.behind text, rest)
    | 'i' => (readText text).map fun (text, rest) => (.before text, rest)
    | 'c' => (readText text).map fun (text, rest) => (.change text, rest)
    | 'q' => (readStatus text).map fun (status, rest) => (.quit true status, rest)
    | 'Q' => (readStatus text).map fun (status, rest) => (.quit false status, rest)
    | 'b' => (readWord text).map fun (label, rest) => (.jump label, rest)
    | 't' => (readWord text).map fun (label, rest) => (.jumpIfReplaced label, rest)
    | 'T' => (readWord text).map fun (label, rest) => (.jumpUnlessReplaced label, rest)
    | ':' =>
      let text := skipBlanks text
      let name := text.takeWhile fun c => c != '\n' && c != ';' && c != '\x7d' && c != ' '
      if name.isEmpty then mistaken .noLabel text else .ok (.label name, text.drop name.length)
    | 'l' => do
      let (width, rest) ← readStatus text
      let isGiven := (skipBlanks text).head?.any Char.isDigit
      return (.printPlainly (if isGiven then some width else none), rest)
    | 'r' => (readName text).map fun (name, rest) => (.file name, rest)
    | 'R' => (readName text).map fun (name, rest) => (.lineOf name, rest)
    | 'w' => (readName text).map fun (name, rest) => (.save name false, rest)
    | 'W' => (readName text).map fun (name, rest) => (.save name true, rest)
    | _ => mistaken (.unknown letter) text

/-- The text without blanks, line ends and semicolons at its beginning, and without
    comments.  The bound is the length of the text. -/
def skipGaps : Nat → List Char → List Char
  | 0, text => text
  | bound + 1, text =>
    match text.dropWhile fun c => c == ' ' || c == '\t' || c == '\n' || c == ';' with
    | '#' :: rest => skipGaps bound (rest.dropWhile (· ≠ '\n'))
    | rest => rest

/-- Refuses addresses that are none, or too many for what is done. -/
def checkAddresses (addresses : List Address) (letter : Char) (rest : List Char) :
    Except Misread Unit :=
  match addresses with
  | [.line 0] => mistaken .lineZero rest
  | [.line 0, .pattern _ _] => .ok ()
  | [.line 0, _] => mistaken .lineZero rest
  | [_, _] => if letter = 'q' ∨ letter = 'Q' then mistaken .oneAddress rest else .ok ()
  | _ => .ok ()

/-- Reads the commands of a script, with so many braces open.  There are fewer of them than
    the bound. -/
def readCommands (extended : Bool) :
    Nat → Nat → List Char → Except Misread (List EditCommand)
  | 0, _, text => mistaken .noCommand text
  | bound + 1, depth, text => do
    match skipGaps text.length text with
    | [] => if depth = 0 then return [] else mistaken .openBrace []
    | text =>
      let (addresses, rest) ← readAddresses extended text
      let rest := skipBlanks rest
      let negated := rest.head? = some '!'
      let rest := if negated then skipBlanks rest.tail else rest
      match rest with
      | [] => mistaken .noCommand []
      | letter :: rest =>
        if negated ∧ letter = '!' then mistaken .repeatedNegation rest
        checkAddresses addresses letter rest
        if letter = '\x7d' ∧ depth = 0 then mistaken .closedBrace rest
        let (action, rest) ← readAction extended letter rest
        let depth := if letter = '\x7b' then depth + 1
          else if letter = '\x7d' then depth - 1
          else depth
        return { addresses, negated, action } :: (← readCommands extended bound depth rest)

/-- The label to which a command jumps. -/
def labelOf? : EditAction → Option (List Char)
  | .jump label | .jumpIfReplaced label | .jumpUnlessReplaced label =>
    if label.isEmpty then none else some label
  | _ => none

/-- The commands that a script writes. -/
def parse (extended : Bool) (script : List Char) : Except Misread (List EditCommand) := do
  let commands ← readCommands extended (script.length + 1) 0 script
  let names := commands.filterMap fun command =>
    match command.action with
    | .label name => some name
    | _ => none
  match (commands.filterMap fun command => labelOf? command.action).find? (· ∉ names) with
  | some label => mistaken (.unknownLabel label) []
  | none => return commands

/-- The names of the files that a script adds to a text. -/
def filesOf (commands : List EditCommand) : List (List Char) :=
  commands.filterMap fun command =>
    match command.action with
    | .file name | .lineOf name => some name
    | _ => none

/-- The names of the files that a script writes. -/
def targetsOf (commands : List EditCommand) : List (List Char) :=
  (commands.filterMap fun command =>
    match command.action with
    | .save name _ => some name
    | .substitute substitution => substitution.target
    | _ => none).eraseDups

end EditScript
end TestCoverage.Filter
