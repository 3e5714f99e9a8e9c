/-
  TestCoverage.Shell.Reader

  Reads scripts, one complete command after the other, so that what stands before a
  mistake can still be carried out.

  The reading functions call each other, because words contain commands and commands
  contain words; a bound on the depth, which the length of the text exceeds nowhere, ends
  them all.
-/
import TestCoverage.Entries
import TestCoverage.Shell.Syntax

namespace TestCoverage.Shell

/-! ## Scripts and mistakes -/

/-- A script that is being read: what is left of it, the number of line ends in all of it, and
    other names of words. -/
structure Source where
  text : List Char
  lines : Nat
  aliases : Entries (List Char) := []

/-- A script that has not been read yet. -/
def Source.ofText (text : List Char) : Source where
  text := text
  lines := text.count '\n'

/-- The line that is reached. -/
def Source.line (source : Source) : Nat :=
  source.lines + 1 - source.text.count '\n'

/-- What is wrong with a script. -/
inductive Mistake where
  /-- something stands where something else is wanted -/
  | unexpected (found : String) (wanted : Option String)
  | openQuote
  | openBackquote
  | openBrace
  | openBrackets
  | loopVariable
  | functionName
deriving DecidableEq, Repr

/-- The mistake in words. -/
def Mistake.message : Mistake → String
  | unexpected found none => s!"{found} unexpected"
  | unexpected found (some wanted) => s!"{found} unexpected (expecting {wanted})"
  | openQuote => "Unterminated quoted string"
  | openBackquote => "EOF in backquote substitution"
  | openBrace => "Missing '\x7d'"
  | openBrackets => "Missing '))'"
  | loopVariable => "Bad for loop variable"
  | functionName => "Bad function name"

/-- A mistake and its line. -/
structure Misprint where
  mistake : Mistake
  line : Nat
deriving DecidableEq, Repr

/-- Reads from a script, or finds a mistake. -/
abbrev Reader := StateT Source (Except Misprint)

namespace Reader

/-- Finds a mistake where the reading stands. -/
def mistake {α : Type} (mistake : Mistake) : Reader α := do
  throw { mistake, line := (← get).line }

/-- What is left of the script. -/
def text : Reader (List Char) := do
  return (← get).text

/-- Changes what is left of the script. -/
def modifyText (change : List Char → List Char) : Reader Unit :=
  modify fun source => { source with text := change source.text }

/-- Leaves the given text. -/
def setText (text : List Char) : Reader Unit :=
  modifyText fun _ => text

/-! ## Characters -/

/-- The character ends a word. -/
def isOperator (c : Char) : Bool :=
  c ∈ [' ', '\t', '\n', ';', '&', '|', '<', '>', '(', ')']

/-- The character may begin a name. -/
def beginsName (c : Char) : Bool :=
  c.isAlpha || c == '_'

/-- The character may stand in a name. -/
def isNameChar (c : Char) : Bool :=
  c.isAlphanum || c == '_'

/-- The text is a name. -/
def isName : List Char → Bool
  | c :: rest => beginsName c && rest.all isNameChar
  | [] => false

/-- Parameters that have one special character for a name. -/
def isSpecial (c : Char) : Bool :=
  c.isDigit || c ∈ ['@', '*', '#', '?', '$', '!', '-']

/-! ## Reading by characters -/

/-- What is left begins with the text. -/
def sees (wanted : String) : Reader Bool := do
  return wanted.toList.isPrefixOf (← text)

/-- Reads the text if it is there. -/
def accept (wanted : String) : Reader Bool := do
  if ← sees wanted then
    modifyText (·.drop wanted.length)
    return true
  else return false

/-- Reads characters as long as they are of a kind. -/
def span (kind : Char → Bool) : Reader (List Char) := do
  let text ← text
  setText (text.dropWhile kind)
  return text.takeWhile kind

/-- The text behind white space inside a line, joined lines, and a comment. -/
def behindBlanks : List Char → List Char
  | '\\' :: '\n' :: rest => behindBlanks rest
  | ' ' :: rest | '\t' :: rest => behindBlanks rest
  | '#' :: rest => rest.dropWhile (· ≠ '\n')
  | text => text

/-- The text behind blanks and empty lines. -/
def behindLines (bound : Nat) (text : List Char) : List Char :=
  match bound, behindBlanks text with
  | bound + 1, '\n' :: rest => behindLines bound rest
  | _, text => text

/-- Passes over white space in a line. -/
def skipBlanks : Reader Unit :=
  modifyText behindBlanks

/-- Passes over white space and ends of lines. -/
def skipLines : Reader Unit :=
  modifyText fun text => behindLines text.length text

/-- The next word as it is written, which stays to be read. -/
def rawWord : Reader String := do
  return String.ofList ((← text).takeWhile (!isOperator ·))

/-! ## Words of the language -/

/-- Words that end a list of commands. -/
def closingWords : List String := ["then", "else", "elif", "fi", "do", "done", "esac", "\x7d"]

/-- Words that begin a command with parts. -/
def openingWords : List String := ["if", "while", "until", "for", "case", "\x7b"]

/-- Words that belong to the language. -/
def reserved : List String :=
  openingWords ++ ["in", "!"] ++ closingWords

/-- Commands whose names functions cannot have. -/
def specialNames : List String := [".", ":", "break", "continue", "eval", "exec", "exit", "export",
  "local", "readonly", "return", "set", "shift", "times", "trap", "unset"]

/-- A word or a sign between the quotes of a message. -/
def shown (word : String) : String :=
  "\"" ++ word ++ "\""

/-- The signs that commands are joined by.  Of two that begin alike the longer comes first. -/
def signs : List String := [";;", "&&", "||", ";", "&", "|", "(", ")"]

/-- What stands at the beginning of a text, as messages name it. -/
def described (keywords : Bool) (text : List Char) : String :=
  match text with
  | [] => "end of file"
  | '\n' :: _ => "newline"
  | '<' :: _ | '>' :: _ => "redirection"
  | _ =>
    match signs.find? (·.toList.isPrefixOf text) with
    | some sign => shown sign
    | none =>
      let word := String.ofList (text.takeWhile (!isOperator ·))
      if keywords ∧ word ∈ reserved then shown word else "word"

/-- What comes next is not what is wanted. -/
def unexpected {α : Type} (wanted : Option String) (keywords : Bool) : Reader α := do
  skipBlanks
  let source ← get
  let line := if source.text.head? = some '\n' then source.line + 1 else source.line
  throw { mistake := .unexpected (described keywords source.text) wanted, line }

/-- Reads a sign that must be there. -/
def expectSign (sign : String) : Reader Unit := do
  skipLines
  if !(← accept sign) then unexpected (some (shown sign)) true

/-- Reads a word that must be there as it is. -/
def expectWord (word : String) : Reader Unit := do
  skipLines
  if (← rawWord) = word then modifyText (·.drop word.length)
  else unexpected (some (shown word)) true

/-! ## Where pieces stand -/

/-- What surrounds the pieces that are read, and hence ends them. -/
inductive Context where
  | word
  | quotes
  /-- between braces, which may stand in quotes -/
  | braces (inQuotes : Bool)
  | document
  /-- an expression, inside some brackets of its own -/
  | expression (depth : Nat)
deriving DecidableEq, Repr

/-- The text is the end of what is read. -/
def Context.isEnd : Context → List Char → Bool
  | .word, c :: _ => isOperator c
  | .word, [] | .document, [] => true
  | .quotes, '"' :: _ => true
  | .braces _, '\x7d' :: _ => true
  | .expression 0, ')' :: ')' :: _ => true
  | _, _ => false

/-- Quotation marks have their meaning. -/
def Context.hasQuotes : Context → Bool
  | .word | .braces _ => true
  | _ => false

/-- Apostrophes have their meaning. -/
def Context.hasApostrophes : Context → Bool
  | .word | .braces false => true
  | _ => false

/-- Parameters stand between quotes. -/
def Context.isQuoted : Context → Bool
  | .quotes | .braces true | .document => true
  | _ => false

/-- The character means more than itself. -/
def Context.isActive (context : Context) (c : Char) : Bool :=
  c ∈ ['\\', '$', '\u0060'] || (context.hasQuotes && c == '"')
    || (context.hasApostrophes && c == '\u0027') || context.isEnd [c]
    || (match context with
      | .expression _ => c == '(' || c == ')'
      | _ => false)

/-- A backslash before the character takes away its meaning. -/
def Context.escapes (context : Context) (c : Char) : Bool :=
  context.hasApostrophes || c ∈ ['$', '\u0060', '\\']
    || (c == '"' && (context == .quotes || context == .braces true))
    || (c == '\x7d' && context == .braces true)

/-- The mistake of a text that ends before what is read does. -/
def Context.atEnd : Context → Mistake
  | .braces false => .openBrace
  | .expression _ => .openBrackets
  | _ => .openQuote

/-- The text up to a closing backquote, in which a backslash may stand before a dollar sign,
    a backquote or a backslash. -/
def backquoted : List Char → Option (List Char × List Char)
  | [] => none
  | '\u0060' :: rest => some ([], rest)
  | '\\' :: c :: rest => do
    let (text, rest) ← backquoted rest
    if c ∈ ['$', '\u0060', '\\'] then return (c :: text, rest) else return ('\\' :: c :: text, rest)
  | c :: rest => do
    let (text, rest) ← backquoted rest
    return (c :: text, rest)

/-- Reads something from another text. -/
def within {α : Type} (text : List Char) (lines : Nat) (reader : Reader α) :
    Reader (α × Source) := do
  match reader.run { (← get) with text, lines } with
  | .ok result => return result
  | .error misprint => throw misprint

/-! ## Documents in a script -/

/-- The text of a word without its quotes, and whether it had any. -/
def unquoted : List Char → List Char × Bool
  | [] => ([], false)
  | '\\' :: c :: rest => (c :: (unquoted rest).1, true)
  | c :: rest =>
    if c = '\u0027' ∨ c = '"' then ((unquoted rest).1, true)
    else (c :: (unquoted rest).1, (unquoted rest).2)

/-- The lines up to a delimiter, and what stands behind it. -/
def documentLines (delimiter : List Char) (dropTabs : Bool) :
    Nat → List Char → List Char × List Char
  | 0, text => ([], text)
  | _, [] => ([], [])
  | bound + 1, text =>
    let line := text.takeWhile (· ≠ '\n')
    let line := if dropTabs then line.dropWhile (· = '\t') else line
    let behind := text.dropWhile (· ≠ '\n')
    if line = delimiter then ([], behind.drop 1)
    else
      let (document, rest) := documentLines delimiter dropTabs bound (behind.drop 1)
      (line ++ behind.take 1 ++ document, rest)

/-- Takes the document that begins on the next line out of the text. -/
def takeDocument (delimiter : List Char) (dropTabs : Bool) : Reader (List Char) := do
  let text ← text
  let line := text.takeWhile (· ≠ '\n')
  let below := (text.dropWhile (· ≠ '\n')).drop 1
  let (document, rest) := documentLines delimiter dropTabs below.length below
  setText (line ++ '\n' :: rest)
  return document

/-! ## Words and commands -/

/-- How a parameter's fallback is written. -/
def fallback? : Char → Option Fallback
  | '-' => some .use
  | '=' => some .assign
  | '?' => some .fail
  | '+' => some .replace
  | _ => none

/-- The name and the sign in front of an assignment. -/
def assignmentName? (raw : String) : Option String :=
  let name := raw.toList.takeWhile isNameChar
  match raw.toList.dropWhile isNameChar with
  | '=' :: _ => if isName name then some (String.ofList name) else none
  | _ => none

/-- The descriptor and the sign of a redirection: what is done, whether the target is a document
    between tabs, and the number of characters.  Descriptors have one digit. -/
def redirection? (text : List Char) : Option (Nat × Redirection × Bool × Nat) :=
  let digits := text.takeWhile Char.isDigit
  let descriptor (default : Nat) : Nat :=
    (digits.head?.map fun c => c.toNat - '0'.toNat).getD default
  let found (default : Nat) (kind : Redirection) (tabs : Bool) (length : Nat) :=
    some (descriptor default, kind, tabs, digits.length + length)
  if 1 < digits.length then none
  else
    match text.drop digits.length with
    | '<' :: '<' :: '-' :: _ => found 0 .document true 3
    | '<' :: '<' :: _ => found 0 .document false 2
    | '<' :: '&' :: _ => found 0 .copy false 2
    | '<' :: '>' :: _ => found 0 .update false 2
    | '<' :: _ => found 0 .read false 1
    | '>' :: '>' :: _ => found 1 .append false 2
    | '>' :: '&' :: _ => found 1 .copy false 2
    | '>' :: '|' :: _ => found 1 .force false 2
    | '>' :: _ => found 1 .write false 1
    | _ => none

/-- How far a list of commands goes. -/
inductive Extent where
  /-- to the end of the line -/
  | line
  /-- over several lines, and there is at least one command -/
  | body
  /-- over several lines -/
  | any
deriving DecidableEq, Repr

/-- The list of commands ends here. -/
def Extent.isOver (extent : Extent) (text : List Char) : Bool :=
  match text with
  | [] => true
  | '\n' :: _ => extent = .line
  | ')' :: _ | ';' :: ';' :: _ => extent = .any
  | _ => extent = .any && closingWords.contains (String.ofList (text.takeWhile (!isOperator ·)))

/-- What the reading does when its bound is reached, which does not happen. -/
def tooDeep {α : Type} : Reader α :=
  mistake .openQuote

mutual

/-- Reads pieces to the end that the context sets. -/
def pieces : Nat → Context → Reader (List Piece)
  | 0, _ => tooDeep
  | bound + 1, context => do
    let source ← get
    if context.isEnd source.text then return []
    match source.text with
    | [] => mistake context.atEnd
    | '\\' :: '\n' :: rest => setText rest; pieces bound context
    | '\\' :: c :: rest =>
      if context.escapes c then
        setText rest
        return .literal [c] :: (← pieces bound context)
      else
        setText (c :: rest)
        return .literal ['\\'] :: (← pieces bound context)
    | ['\\'] => setText []; return .literal ['\\'] :: (← pieces bound context)
    | '$' :: rest =>
      setText rest
      let piece ← dollar bound context
      return piece :: (← pieces bound context)
    | '\u0060' :: rest =>
      match backquoted rest with
      | none => do
        setText []
        mistake .openBackquote
      | some (script, rest) => do
        let (body, left) ← within script (script.count '\n') (commands bound .any)
        if left.text.isEmpty then
          setText rest
          return .output body :: (← pieces bound context)
        else
          let _ ← within left.text left.lines (unexpected (α := Unit) none true)
          return []
    | c :: rest =>
      if context.hasApostrophes ∧ c = '\u0027' then
        setText rest
        let text ← span (· ≠ '\u0027')
        if !(← accept "'") then mistake .openQuote
        return .literal text :: (← pieces bound context)
      else if context.hasQuotes ∧ c = '"' then
        setText rest
        let inner ← pieces bound .quotes
        let _ ← accept "\""
        return .quotes inner :: (← pieces bound context)
      else match context with
        | .expression depth =>
          if c = '(' then
            setText rest
            return .plain [c] :: (← pieces bound (.expression (depth + 1)))
          else if c = ')' then
            if depth = 0 then mistake .openBrackets
            else
              setText rest
              return .plain [c] :: (← pieces bound (.expression (depth - 1)))
          else plain bound context c rest
        | _ => plain bound context c rest

/-- Reads a run of characters that mean themselves. -/
def plain : Nat → Context → Char → List Char → Reader (List Piece)
  | 0, _, _, _ => tooDeep
  | bound + 1, context, c, rest => do
    setText rest
    let run ← span (!context.isActive ·)
    return .plain (c :: run) :: (← pieces bound context)

/-- Reads what stands behind a dollar sign. -/
def dollar : Nat → Context → Reader Piece
  | 0, _ => tooDeep
  | bound + 1, context => do
    if ← accept "((" then
      let expression ← pieces bound (.expression 0)
      let _ ← accept "))"
      return .arithmetic expression
    else if ← accept "(" then
      let body ← commands bound .any
      expectSign ")"
      return .output body
    else if ← accept "\x7b" then
      braced bound context.isQuoted
    else match ← text with
      | c :: rest =>
        if isSpecial c then
          setText rest
          return .parameter (String.ofList [c]) .value
        else if beginsName c then
          return .parameter (String.ofList (← span isNameChar)) .value
        else return .plain ['$']
      | [] => return .plain ['$']

/-- Reads a parameter in braces, behind the opening one. -/
def braced : Nat → Bool → Reader Piece
  | 0, _ => tooDeep
  | bound + 1, inQuotes => do
    let whole ← text
    let counts : Bool := match whole with
      | '#' :: c :: _ => c != '\x7d'
      | _ => false
    if counts then setText (whole.drop 1)
    let name ← match ← text with
      | c :: rest =>
        if c.isDigit then span Char.isDigit
        else if isSpecial c then do setText rest; pure [c]
        else if beginsName c then span isNameChar
        else pure []
      | [] => pure []
    if name.isEmpty then mistaken bound inQuotes
    else if counts then
      if ← accept "\x7d" then return .parameter (String.ofList name) .length
      else mistaken bound inQuotes
    else
      match ← parameterUse bound inQuotes with
      | some use =>
        if ← accept "\x7d" then return .parameter (String.ofList name) use
        else mistaken bound inQuotes
      | none => mistaken bound inQuotes

/-- Passes over a use of a parameter that does not exist. -/
def mistaken : Nat → Bool → Reader Piece
  | 0, _ => tooDeep
  | bound + 1, inQuotes => do
    let _ ← pieces bound (.braces inQuotes)
    let _ ← accept "\x7d"
    return .mistaken

/-- Reads what is wanted of a parameter, if that exists. -/
def parameterUse : Nat → Bool → Reader (Option ParameterUse)
  | 0, _ => tooDeep
  | bound + 1, inQuotes => do
    match ← text with
    | '\x7d' :: _ => return some .value
    | '#' :: '#' :: rest =>
      setText rest
      return some (.without false true (← pieces bound (.braces false)))
    | '#' :: rest =>
      setText rest
      return some (.without false false (← pieces bound (.braces false)))
    | '%' :: '%' :: rest =>
      setText rest
      return some (.without true true (← pieces bound (.braces false)))
    | '%' :: rest =>
      setText rest
      return some (.without true false (← pieces bound (.braces false)))
    | text =>
      let orEmpty := text.head? = some ':'
      match text.drop (if orEmpty then 1 else 0) with
      | c :: rest =>
        match fallback? c with
        | some fallback =>
          setText rest
          return some (.either fallback orEmpty (← pieces bound (.braces inQuotes)))
        | none =>
          if orEmpty ∧ c = '\x7d' then
            setText []
            mistake .openBrace
          else return none
      | [] => mistake (Context.braces inQuotes).atEnd

/-- Reads redirections. -/
def redirects : Nat → Reader (List Redirect)
  | 0 => tooDeep
  | bound + 1 => do
    skipBlanks
    match redirection? (← text) with
    | none => return []
    | some (descriptor, kind, tabs, length) =>
      modifyText (·.drop length)
      skipBlanks
      if kind = .document then
        let raw ← span (!isOperator ·)
        if raw.isEmpty then unexpected none true
        let (delimiter, isLiteral) := unquoted raw
        let line := (← get).line
        let document ← takeDocument delimiter tabs
        let target ←
          if isLiteral then pure [Piece.literal document]
          else do
            let (target, _) ← within document (line + document.count '\n') (pieces bound .document)
            pure target
        return .redirect descriptor kind target :: (← redirects bound)
      else
        let target ← pieces bound .word
        if target.isEmpty then unexpected none true
        return .redirect descriptor kind target :: (← redirects bound)

/-- Reads the assignments, words and redirections of a call. -/
def simpleParts : Nat → List (String × Word) → List Word → List Redirect →
    Reader (List (String × Word) × List Word × List Redirect)
  | 0, _, _, _ => tooDeep
  | bound + 1, assignments, words, descriptors => do
    let more ← redirects bound
    let descriptors := descriptors ++ more
    match ← text with
    | [] => return (assignments, words, descriptors)
    | c :: _ =>
      if isOperator c then return (assignments, words, descriptors)
      else
        let raw ← rawWord
        match if words.isEmpty then assignmentName? raw else none with
        | some name =>
          modifyText (·.drop (name.length + 1))
          let value ← pieces bound .word
          simpleParts bound (assignments ++ [(name, value)]) words descriptors
        | none =>
          let word ← pieces bound .word
          simpleParts bound assignments (words ++ [word]) descriptors

/-- Reads words to the end of a line. -/
def words : Nat → Reader (List Word)
  | 0 => tooDeep
  | bound + 1 => do
    skipBlanks
    match ← text with
    | [] => return []
    | c :: _ =>
      if isOperator c then return []
      else
        let word ← pieces bound .word
        return word :: (← words bound)

/-- Reads patterns with bars between them, to a closing bracket. -/
def patterns : Nat → Reader (List Word)
  | 0 => tooDeep
  | bound + 1 => do
    skipBlanks
    let pattern ← pieces bound .word
    skipBlanks
    if ← accept "|" then return pattern :: (← patterns bound)
    else if ← accept ")" then return [pattern]
    else unexpected (some (shown ")")) false

/-- Reads the cases of a choice and the word that ends them. -/
def cases : Nat → Reader (List (List Word × Command))
  | 0 => tooDeep
  | bound + 1 => do
    skipLines
    if (← rawWord) = "esac" then
      expectWord "esac"
      return []
    let _ ← accept "("
    let subjects ← patterns bound
    let body ← commands bound .any
    skipLines
    if (← rawWord) = "esac" then
      expectWord "esac"
      return [(subjects, body)]
    else
      expectSign ";;"
      return (subjects, body) :: (← cases bound)

/-- Reads what stands behind the condition of a branch. -/
def branchTail : Nat → Reader (Command × Command)
  | 0 => tooDeep
  | bound + 1 => do
    expectWord "then"
    let body ← commands bound .body
    skipLines
    let raw ← rawWord
    if raw = "elif" then
      expectWord raw
      let condition ← commands bound .body
      let (inner, otherwise) ← branchTail bound
      return (body, .branch condition inner otherwise)
    else if raw = "else" then
      expectWord raw
      let otherwise ← commands bound .body
      expectWord "fi"
      return (body, otherwise)
    else
      expectWord "fi"
      return (body, .nothing)

/-- Reads the body of a loop. -/
def loopBody : Nat → Reader Command
  | 0 => tooDeep
  | bound + 1 => do
    expectWord "do"
    let body ← commands bound .body
    expectWord "done"
    return body

/-- Reads a loop over words, behind its first word. -/
def eachLoop : Nat → Reader Command
  | 0 => tooDeep
  | bound + 1 => do
    skipBlanks
    let name ← rawWord
    if !isName name.toList then
      if (← text).head? = some '\n' then modifyText (·.drop 1)
      mistake .loopVariable
    expectWord name
    skipLines
    if (← rawWord) = "in" then
      expectWord "in"
      let items ← words bound
      if !(← accept ";") ∧ (← text).head? ≠ some '\n' then unexpected none true
      return .each name (some items) (← loopBody bound)
    else
      let _ ← accept ";"
      return .each name none (← loopBody bound)

/-- Reads a command with parts, if there is one, without what is redirected. -/
def compound : Nat → Reader (Option Command)
  | 0 => tooDeep
  | bound + 1 => do
    if ← accept "(" then
      let body ← commands bound .body
      expectSign ")"
      return some (.subshell body)
    let raw ← rawWord
    if raw ∈ openingWords then
      expectWord raw
      match raw with
      | "if" =>
        let condition ← commands bound .body
        let (body, otherwise) ← branchTail bound
        return some (.branch condition body otherwise)
      | "while" | "until" =>
        let condition ← commands bound .body
        return some (.loop (raw = "until") condition (← loopBody bound))
      | "for" => return some (← eachLoop bound)
      | "case" =>
        skipBlanks
        let subject ← pieces bound .word
        if subject.isEmpty then unexpected (some "word") true
        expectWord "in"
        return some (.choice subject (← cases bound))
      | _ =>
        let body ← commands bound .body
        expectWord "\x7d"
        return some body
    else return none

/-- Reads one command.  Some words are not other names any more. -/
def command : Nat → List String → Reader Command
  | 0, _ => tooDeep
  | bound + 1, used => do
    skipBlanks
    let source ← get
    let line := source.line
    match ← compound bound with
    | some body =>
      let descriptors ← redirects bound
      return .at line (if descriptors.isEmpty then body else .redirected body descriptors)
    | none =>
      let raw ← rawWord
      match if raw ∈ used then none else source.aliases.get? raw with
      | some meant =>
        setText (meant ++ source.text.drop raw.length)
        command bound (raw :: used)
      | none =>
        if raw ∈ reserved then unexpected none true
        let (assignments, words, descriptors) ← simpleParts bound [] [] []
        if assignments.isEmpty ∧ words.isEmpty ∧ descriptors.isEmpty then unexpected none true
        let isAlone := assignments.isEmpty && descriptors.isEmpty && (← sees "(")
        match words, isAlone with
        | [word], true => definition bound word
        | _, _ => return .at line (.simple assignments words descriptors)

/-- Reads what stands behind the name of a function. -/
def definition : Nat → Word → Reader Command
  | 0, _ => tooDeep
  | bound + 1, word => do
    let _ ← accept "("
    skipBlanks
    if !(← accept ")") then unexpected (some (shown ")")) false
    match word with
    | [.plain name] =>
      let name := String.ofList name
      if !isName name.toList ∨ name ∈ specialNames then mistake .functionName
      skipLines
      return .define name (← command bound [])
    | _ => mistake .functionName

/-- Reads the commands of a pipeline behind the first. -/
def piped : Nat → Reader (List Command)
  | 0 => tooDeep
  | bound + 1 => do
    skipBlanks
    if (← sees "|") ∧ ¬ (← sees "||") then
      let _ ← accept "|"
      skipLines
      let next ← command bound []
      return next :: (← piped bound)
    else return []

/-- Reads a pipeline. -/
def pipeline : Nat → Reader Command
  | 0 => tooDeep
  | bound + 1 => do
    skipBlanks
    let negated := (← rawWord) = "!"
    if negated then expectWord "!"
    let first ← command bound []
    let others ← piped bound
    return if !negated ∧ others.isEmpty then first else .pipeline negated first others

/-- Reads pipelines that depend on those before them. -/
def dependent : Nat → Command → Reader Command
  | 0, _ => tooDeep
  | bound + 1, first => do
    skipBlanks
    if ← accept "&&" then
      skipLines
      dependent bound (.both first (← pipeline bound))
    else if ← accept "||" then
      skipLines
      dependent bound (.either first (← pipeline bound))
    else return first

/-- Reads a list of commands. -/
def commands : Nat → Extent → Reader Command
  | 0, _ => tooDeep
  | bound + 1, extent => do
    if extent = .line then skipBlanks else skipLines
    if extent.isOver (← text) then return .nothing
    let first ← dependent bound (← pipeline bound)
    skipBlanks
    if ← sees ";;" then
      if extent = .line then unexpected none true else return first
    else if ← accept ";" then followed bound extent first
    else if ← accept "&" then followed bound extent (.background first)
    else
      match ← text with
      | [] => return first
      | '\n' :: _ => if extent = .line then return first else followed bound extent first
      | _ => if extent = .line then unexpected none true else return first

/-- Reads the commands behind the first ones of a list. -/
def followed : Nat → Extent → Command → Reader Command
  | 0, _, _ => tooDeep
  | bound + 1, extent, first => do
    match ← commands bound (if extent = .line then .line else .any) with
    | .nothing => return first
    | rest => return .sequence first rest

end

/-- The next command of a script and what stands behind it, from the end of its line on, or
    nothing at the end; fails if there is a mistake. -/
def next (source : Source) : Except Misprint (Option (Command × Source)) :=
  match behindLines source.text.length source.text with
  | [] => .ok none
  | text => do
    some <$> (commands (8 * text.length + 16) .line).run { source with text }

end Reader
end TestCoverage.Shell
