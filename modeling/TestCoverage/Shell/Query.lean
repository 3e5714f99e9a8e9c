/-
  TestCoverage.Shell.Query

  What is asked about the files below a directory, and how it is written in arguments.

  A comma binds least, then `-o`, then two questions one behind the other, then `!`.
-/
import TestCoverage.Files.Rights
import TestCoverage.Filter.Lines
import TestCoverage.Shell.Pattern

namespace TestCoverage.Shell

/-! ## Questions -/

/-- How a number has to be to another one. -/
structure Amount where
  order : Ordering
  number : Nat
deriving DecidableEq, Repr

/-- The number is as it has to be. -/
def Amount.allows (amount : Amount) (n : Nat) : Bool :=
  compare n amount.number == amount.order

/-- The amount that a text writes: a number, or one with a sign for more or for less. -/
def Amount.ofText? : List Char → Option Amount
  | '+' :: digits => (Filter.number? digits).map (⟨.gt, ·⟩)
  | '-' :: digits => (Filter.number? digits).map (⟨.lt, ·⟩)
  | digits => (Filter.number? digits).map (⟨.eq, ·⟩)

/-- Which of some rights a file must have. -/
inductive RightsNeed where
  | exactly
  | all
  | some
deriving DecidableEq, Repr

/-- Something that is asked about a file, or done with it. -/
inductive Question where
  | always (answer : Bool)
  | name (ignoresCase : Bool) (pattern : List Pattern)
  | path (ignoresCase : Bool) (pattern : List Pattern)
  | target (ignoresCase : Bool) (pattern : List Pattern)
  | kind (letters : List Char)
  | empty
  | size (amount : Amount) (unit : Nat)
  | names (amount : Amount)
  /-- how old it is, in days or minutes: all files are new -/
  | age (amount : Amount)
  | rights (need : RightsNeed) (rights : Rights)
  | mayRun
  | show' (ending : List Char)
  | format (format : List Char)
  | prune
  | quit
  | delete
  /-- runs a program for the file, or at the end for all files -/
  | call (words : List (List Char)) (inDirectory atEnd : Bool)

/-- Questions and how they belong together. -/
inductive Query where
  | ask (question : Question)
  | not (query : Query)
  | and (first second : Query)
  | or (first second : Query)
  | both (first second : Query)

/-- Something is done with a file, so that it need not be shown. -/
def Query.acts : Query → Bool
  | .ask (.show' _) | .ask (.format _) | .ask .delete | .ask (.call ..) => true
  | .ask _ => false
  | .not query => query.acts
  | .and first second | .or first second | .both first second => first.acts || second.acts

/-- Something is deleted. -/
def Query.deletes : Query → Bool
  | .ask .delete => true
  | .ask _ => false
  | .not query => query.deletes
  | .and first second | .or first second | .both first second =>
    first.deletes || second.deletes

/-- What is to be found, and where. -/
structure Hunt where
  query : Query := .ask (.always true)
  minDepth : Nat := 0
  maxDepth : Option Nat := none
  /-- what is in a directory comes before it -/
  depthFirst : Bool := false

/-! ## Reading arguments -/

/-- Why arguments cannot be read, in words. -/
abbrev QueryFault := List Char

namespace Query

/-- A text between the quotes of complaints. -/
def cited (text : List Char) : List Char :=
  '\u0060' :: text ++ ['\u0027']

/-- The argument begins the questions. -/
def beginsQuestions (argument : List Char) : Bool :=
  (argument.head? == some '-' && 1 < argument.length) || argument == ['('] || argument == ['!']

/-- A pattern, and whether the case of letters counts. -/
def patternOf (ignoresCase : Bool) (text : List Char) : List Pattern :=
  Pattern.ofEscaped (if ignoresCase then text.map Char.toLower else text)

/-- The size that a text writes, and the size of its unit in bytes. -/
def sizeOf? (text : List Char) : Except QueryFault Question :=
  let (digits, unit?) := match text.getLast? with
    | some 'c' => (text.dropLast, some 1)
    | some 'w' => (text.dropLast, some 2)
    | some 'b' => (text.dropLast, some 512)
    | some 'k' => (text.dropLast, some 1024)
    | some 'M' => (text.dropLast, some 1048576)
    | some 'G' => (text.dropLast, some 1073741824)
    | some c => (text, if c.isDigit then some 512 else none)
    | none => (text, none)
  match unit?, Amount.ofText? digits with
  | none, _ => .error ("invalid -size type ".toList ++ cited (text.getLast?.toList))
  | some unit, some amount => .ok (.size amount unit)
  | some _, none => .error ("Invalid argument ".toList ++ cited text ++ " to -size".toList)

/-- The rights that a text writes, and which of them a file must have. -/
def rightsOf? (text : List Char) : Except QueryFault Question :=
  let (need, digits) := match text with
    | '-' :: digits => (RightsNeed.all, digits)
    | '/' :: digits => (RightsNeed.some, digits)
    | digits => (RightsNeed.exactly, digits)
  match Rights.change? false 0 0 digits with
  | some rights => .ok (.rights need rights)
  | none => .error ("invalid mode ".toList ++ '\u0027' :: text ++ ['\u0027'])

/-- The kinds that a text lists. -/
def kindsOf? (text : List Char) : Except QueryFault Question :=
  let parts := Text.pieces ',' text
  let isKnown (c : Char) : Bool := ['f', 'd', 'l', 'c', 'b', 'p', 's'].contains c
  match parts.find? fun part => ¬ (part.length = 1 ∧ part.all isKnown) with
  | none => .ok (.kind parts.flatten)
  | some [] =>
    if text.isEmpty then .error "Arguments to -type should contain at least one letter".toList
    else .error ("Last file type in list argument to -type is missing, ".toList
      ++ "i.e., list is ending on: ','".toList)
  | some (c :: _) =>
    if isKnown c then
      .error "Must separate multiple arguments to -type using: ','".toList
    else .error ("Unknown argument to -type: ".toList ++ [c])

/-- The question of a word that has one argument, if it is known. -/
def valued? (word : String) (value : List Char) : Option (Except QueryFault Question) :=
  let number (make : Amount → Question) : Option (Except QueryFault Question) :=
    match Amount.ofText? value with
    | some amount => some (.ok (make amount))
    | none => some (.error ("invalid argument ".toList ++ cited value ++ " to ".toList
        ++ cited word.toList))
  match word with
  | "-name" => some (.ok (.name false (patternOf false value)))
  | "-iname" => some (.ok (.name true (patternOf true value)))
  | "-path" | "-wholename" => some (.ok (.path false (patternOf false value)))
  | "-ipath" | "-iwholename" => some (.ok (.path true (patternOf true value)))
  | "-lname" => some (.ok (.target false (patternOf false value)))
  | "-ilname" => some (.ok (.target true (patternOf true value)))
  | "-type" => some (kindsOf? value)
  | "-size" => some (sizeOf? value)
  | "-perm" => some (rightsOf? value)
  | "-links" => number .names
  | "-mtime" | "-atime" | "-ctime" | "-mmin" | "-amin" | "-cmin" => number .age
  | "-user" | "-group" =>
    some (.ok (.always (value == "root".toList || value == ['0'])))
  | "-uid" | "-gid" => some (.ok (.always (value == ['0'])))
  | "-printf" => some (.ok (.format value))
  | "-newer" => some (.ok (.always false))
  | _ => none

/-- The question of a word that stands alone, if it is known. -/
def plain? : String → Option Question
  | "-true" | "-noleaf" | "-mount" | "-xdev" | "-follow" | "-daystart" | "-warn" | "-nowarn"
  | "-readable" | "-writable" => some (.always true)
  | "-false" | "-nouser" | "-nogroup" => some (.always false)
  | "-empty" => some .empty
  | "-executable" => some .mayRun
  | "-print" => some (.show' ['\n'])
  | "-print0" => some (.show' ['\x00'])
  | "-prune" => some .prune
  | "-quit" => some .quit
  | "-delete" => some .delete
  | _ => none

/-- The words of a call up to its end, whether it is one for all files, and what stands behind
    it. -/
def callWords? : List (List Char) → Option (List (List Char) × Bool × List (List Char))
  | [] => none
  | [';'] :: rest => some ([], false, rest)
  | ['\x7b', '\x7d'] :: ['+'] :: rest => some ([], true, rest)
  | word :: rest => (callWords? rest).map fun (words, atEnd, rest) => (word :: words, atEnd, rest)

/-- The words that join questions. -/
def isJoint (argument : List Char) : Bool :=
  [",", "-o", "-or"].contains (String.ofList argument)

/-- A reader of arguments that keeps what holds for all questions. -/
abbrev Reading := StateT (Hunt × List (List Char)) (Except QueryFault)

/-- The arguments that are left. -/
def left : Reading (List (List Char)) :=
  return (← get).2

/-- The first argument is read. -/
def skip : Reading Unit :=
  modify fun (hunt, left) => (hunt, left.tail)

/-- Arguments cannot be read. -/
def refuse {α : Type} (message : List Char) : Reading α :=
  throw message

/-- A number for an option. -/
def depthFrom (word value : List Char) : Reading Nat :=
  match Filter.number? value with
  | some n => return n
  | none =>
    refuse ("Expected a positive decimal integer argument to ".toList ++ word
      ++ ", but got ".toList ++ '\u0027' :: value ++ ['\u0027'])

/-- Reads a word and what belongs to it. -/
def readWord (word : List Char) : Reading Query := do
  let name := String.ofList word
  let missing : QueryFault := "missing argument to ".toList ++ cited word
  skip
  match plain? name, (← left) with
  | some question, _ => return .ask question
  | none, rest =>
    if name = "-depth" ∨ name = "-d" then
      modify fun (hunt, left) => ({ hunt with depthFirst := true }, left)
      return .ask (.always true)
    else if name = "-exec" ∨ name = "-execdir" then
      match callWords? rest with
      | some (words, atEnd, rest) =>
        if words.isEmpty then
          refuse ("invalid argument ".toList ++ cited [';'] ++ " to ".toList ++ cited word)
        modify fun (hunt, _) => (hunt, rest)
        return .ask (.call words (name == "-execdir") atEnd)
      | none => refuse missing
    else if name = "-maxdepth" ∨ name = "-mindepth" then
      match rest with
      | [] => refuse missing
      | value :: _ => do
        let n ← depthFrom word value
        modify fun (hunt, left) =>
          (if name = "-maxdepth" then { hunt with maxDepth := some n }
          else { hunt with minDepth := n }, left.tail)
        return .ask (.always true)
    else match valued? name (rest.headD []) with
      | none => refuse ("unknown predicate ".toList ++ cited word)
      | some made =>
        if rest.isEmpty then refuse missing
        skip
        match made with
        | .ok question => return .ask question
        | .error fault => refuse fault

mutual

/-- Reads questions with commas between them. -/
def readList : Nat → Reading Query
  | 0 => refuse []
  | fuel + 1 => do
    let first ← readOr fuel
    if (← left).head? = some [','] then
      skip
      if (← left).isEmpty then refuse "expected an expression after ','".toList
      return .both first (← readList fuel)
    else return first

/-- Reads questions of which one must hold. -/
def readOr : Nat → Reading Query
  | 0 => refuse []
  | fuel + 1 => do
    let first ← readAnd fuel
    let word := (← left).headD []
    if word = "-o".toList ∨ word = "-or".toList then
      skip
      if (← left).isEmpty then
        refuse ("expected an expression after '".toList ++ word ++ ['\u0027'])
      return .or first (← readOr fuel)
    else return first

/-- Reads questions that must all hold. -/
def readAnd : Nat → Reading Query
  | 0 => refuse []
  | fuel + 1 => do
    let first ← readOne fuel
    match ← left with
    | [] => return first
    | word :: _ =>
      if isJoint word ∨ word = [')'] then return first
      else
        if word = "-a".toList ∨ word = "-and".toList then
          skip
          if (← left).isEmpty then
            refuse ("expected an expression after '".toList ++ word ++ ['\u0027'])
        return .and first (← readAnd fuel)

/-- Reads one question, or questions in brackets. -/
def readOne : Nat → Reading Query
  | 0 => refuse []
  | fuel + 1 => do
    match ← left with
    | [] => refuse "invalid expression".toList
    | word :: rest =>
      if word = ['!'] ∨ word = "-not".toList then
        skip
        if rest.isEmpty then
          refuse ("expected an expression after '".toList ++ word ++ ['\u0027'])
        return .not (← readOne fuel)
      else if word = ['('] then
        skip
        if rest.head? = some [')'] then
          refuse "invalid expression; empty parentheses are not allowed.".toList
        if rest.isEmpty then
          refuse ("invalid expression; I was expecting to find a ')' somewhere ".toList
            ++ "but did not see one.".toList)
        let inside ← readList fuel
        if (← left).head? = some [')'] then
          skip
          return inside
        else
          refuse ("invalid expression; I was expecting to find a ')' somewhere ".toList
            ++ "but did not see one.".toList)
      else if word = [')'] then
        refuse ("invalid expression; expected to find a ')' but didn't see one. ".toList
          ++ " Perhaps you need an extra predicate after ".toList)
      else if isJoint word ∨ word = "-a".toList ∨ word = "-and".toList then
        refuse ("invalid expression; you have used a binary operator '".toList ++ word
          ++ "' with nothing before it.".toList)
      else if word.head? = some '-' then readWord word
      else refuse ("paths must precede expression: ".toList ++ cited word)

end

/-- Reads all questions. -/
def read (arguments : List (List Char)) : Except QueryFault Hunt :=
  if arguments.isEmpty then .ok {}
  else
    match (readList (4 * arguments.length + 4)).run ({}, arguments) with
    | .error fault => .error fault
    | .ok (query, hunt, []) =>
      .ok { hunt with query, depthFirst := hunt.depthFirst || query.deletes }
    | .ok (_, _, [')'] :: _) => .error "you have too many ')'".toList
    | .ok (_, _, word :: _) => .error ("paths must precede expression: ".toList ++ cited word)

end Query
end TestCoverage.Shell
