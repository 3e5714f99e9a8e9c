/-
  TestCoverage.Ron.Document

  RON documents: one value, with attributes in front of it.

  How deep values may be nested is limited: what is in brackets goes one level in, and each
  of the parts in them another one.
-/
import TestCoverage.Ron.Token

namespace TestCoverage.Ron

/-! ## Values with parts -/

/-- Values are nested too deep here. -/
def tooDeep {α : Type} : Reader α := fun source => source.fail .tooDeep

/-- Reads elements up to the closing bracket.  Commas stand between them, and one may stand
    behind the last.  Their number is bounded by the length of the text. -/
def readElements {α : Type} (read : Reader α) (close : Char) : Nat → Bool → Reader (List α)
  | 0, _, source => source.fail .ended
  | bound + 1, mayFollow, source => do
    let source ← skipGap source
    match source.text with
    | [] => source.fail .ended
    | c :: _ =>
      if c = close then return ([], source.skip 1)
      else if ¬ mayFollow then source.fail (.expected "comma")
      else
        let (element, rest) ← read source
        let (mayFollow, rest) ← readComma rest
        let (elements, rest) ← readElements read close bound mayFollow rest
        return (element :: elements, rest)

/-- Reads what is inside brackets that may be opened if the level allows it. -/
def readInside {α : Type} (level : Nat) (read : Reader α) (close : Char) : Reader (List α) :=
  fun source =>
    if level = 0 then tooDeep source
    else readElements read close (source.text.length + 1) true source

/-- Reads a key, a colon and a value. -/
def readEntry (readKey readValue : Reader Value) : Reader (Value × Value) := fun source => do
  let (key, source) ← readKey source
  let source ← skipGap source
  match source.after? ":" with
  | some rest =>
    let (value, rest) ← readValue (← skipGap rest)
    return ((key, value), rest)
  | none => source.fail (.expected "colon")

/-- Reads the name of a field, if the level allows it. -/
def readField (level : Nat) : Reader Value := fun source =>
  if level < 2 then tooDeep source
  else (readName source).map fun (name, rest) => (.string name, rest)

/-- What stands behind an opening parenthesis has no names. -/
def isTuple (source : Source) : Except Fault Bool :=
  match (readName source).toOption with
  | none => .ok true
  | some (_, rest) => do
    let rest ← skipGap rest
    match rest.text with
    | [] => rest.fail .ended
    | c :: _ => return c != ':'

/-- Reads a structure: nothing if there is no parenthesis, a list if there are no names. -/
def readStructure (level : Nat) (read : Reader Value) : Reader Value := fun source =>
  match source.after? "(" with
  | none => .ok (.unit, source)
  | some inside =>
    match skipGap inside >>= isTuple with
    | .error fault => source.fail fault.problem
    | .ok true =>
      (readInside level read ')' inside).map fun (elements, rest) => (.list elements, rest)
    | .ok false =>
      (readInside level (readEntry (readField level) read) ')' inside).map
        fun (entries, rest) => (.ofEntries entries, rest)

/-- Reads what follows the word for a value that is there.  The parentheses may be left out
    if the document says so. -/
def readPresent (isImplicit : Bool) (read : Reader Value) : Reader Value := fun source => do
  let source ← skipGap source
  match source.after? "(" with
  | some inside =>
    let (value, rest) ← read (← skipGap inside)
    let (_, rest) ← readComma rest
    match rest.after? ")" with
    | some rest => return (.present value, rest)
    | none => rest.fail (.expected "closing `)`")
  | none =>
    if isImplicit then
      let (value, rest) ← read source
      return (.present value, rest)
    else source.fail (.expected "option")

/-- The values that are written as words. -/
def words : List (String × Value) :=
  [("true", .boolean true), ("false", .boolean false), ("None", .absent),
    ("inf", .float (.infinite false)), ("-inf", .float (.infinite true)), ("NaN", .float .nan)]

/-- Reads a word that is a value. -/
def readWord? (source : Source) : Option (Value × Source) :=
  words.findSome? fun (word, value) => (source.afterWord? word).map fun rest => (value, rest)

/-- Reads a value by its first character. -/
def readByStart (level : Nat) (read : Reader Value) : Reader Value := fun source =>
  match source.text with
  | [] => source.fail .ended
  | c :: text =>
    let inside := source.skip 1
    if c = '(' then readStructure level read source
    else if c = '[' then
      (readInside level read ']' inside).map fun (elements, rest) => (.list elements, rest)
    else if c = '\x7b' then
      (readInside level (readEntry read read) '\x7d' inside).map
        fun (entries, rest) => (.ofEntries entries, rest)
    else if c.isDigit ∨ c = '+' ∨ c = '-' then readNumber source
    else if c = '.' then readFloat source
    else if c = '"' then
      (readQuoted (text.length + 1) true inside).map fun (string, rest) => (.string string, rest)
    else if c = 'r' then (readRaw inside).map fun (string, rest) => (.string string, rest)
    else if c = '\'' then (readChar inside).map fun (char, rest) => (.char char, rest)
    else source.fail (.unexpected (firstByte c))

/-- Reads a value at a level: what it holds as present is read one level further in, and its
    parts are read two levels further in. -/
def readAny (isImplicit : Bool) (level : Nat) (readInner readPart : Reader Value) :
    Reader Value := fun source =>
  match readWord? source with
  | some reading => .ok reading
  | none =>
    match source.afterWord? "Some" with
    | some rest => readPresent isImplicit readInner rest
    | none =>
      match source.after? "()" with
      | some rest => .ok (.unit, rest)
      | none =>
        match (readName source).toOption with
        | some (_, rest) => skipGap rest >>= readStructure level readPart
        | none => readByStart level readPart source

/-- Reads a value in which others may be nested so many levels deep. -/
def readValue (isImplicit : Bool) : Nat → Reader Value
  | 0, source => readAny isImplicit 0 tooDeep tooDeep source
  | 1, source => readAny isImplicit 1 (readValue isImplicit 0) tooDeep source
  | level + 2, source =>
    readAny isImplicit (level + 2) (readValue isImplicit (level + 1)) (readValue isImplicit level)
      source

/-- How many levels there may be. -/
def maxLevel : Nat := 128

/-! ## Attributes -/

/-- The extension with which parentheses may be left out. -/
def implicitSome : String := "implicit_some"

/-- The extensions that an attribute can name. -/
def extensions : List String :=
  ["unwrap_newtypes", implicitSome, "unwrap_variant_newtypes"]

/-- Passes over those of the signs that are there, with gaps behind them; says if all were
    there.  Behind a problem the other signs are tried as well. -/
def skipSigns : List String → Source → Except Problem Bool × Source
  | [], source => (.ok true, source)
  | sign :: signs, source =>
    match source.after? sign with
    | none =>
      let (found, rest) := skipSigns signs source
      (found.map fun _ => false, rest)
    | some rest =>
      match skipGap rest with
      | .ok rest => skipSigns signs rest
      | .error fault => (.error fault.problem, (skipSigns signs fault.source).2)

/-- Passes over signs that all have to be there. -/
def expectSigns (missing : String) (signs : List String) (source : Source) :
    Except Fault Source :=
  match skipSigns signs source with
  | (.ok true, rest) => .ok rest
  | (.ok false, rest) => rest.fail (.expected missing)
  | (.error problem, rest) => rest.fail problem

/-- Reads the names of extensions.  Their number is bounded. -/
def readExtensions : Nat → Reader (List String)
  | 0, source => .ok ([], source)
  | bound + 1, source => do
    let (name, rest) ← readName source
    if ¬ extensions.contains (String.ofList name) then rest.fail (.noSuchExtension name)
    let (mayFollow, rest) ← readComma rest
    if ¬ mayFollow ∧ rest.isAtNamePart then rest.fail (.expected "comma")
    let (names, rest) ←
      if mayFollow ∧ rest.isAtNamePart then readExtensions bound rest else pure ([], rest)
    return (String.ofList name :: names, rest)

/-- Reads the attributes in front of a document.  Their number is bounded. -/
def readAttributes : Nat → Reader (List String)
  | 0, source => .ok ([], source)
  | bound + 1, source => do
    let source ← skipGap source
    if source.text.head? ≠ some '#' then return ([], source)
    let rest ← expectSigns "an `#![enable(...)]` attribute" ["#", "!", "[", "enable", "("] source
    let (names, rest) ← readExtensions (rest.text.length + 1) (← skipGap rest)
    let rest ← expectSigns "closing `)]` after the enable attribute" [")", "]"] (← skipGap rest)
    let (more, rest) ← readAttributes bound rest
    return (names ++ more, rest)

/-! ## Documents -/

/-- Reads a whole document. -/
def readDocument (document : List Char) : Except Fault Value := do
  let (names, source) ← readAttributes (document.length + 1) (Source.start document)
  let (value, rest) ← readValue (names.contains implicitSome) maxLevel source
  let rest ← skipGap rest
  if rest.text.isEmpty then return value else rest.fail .trailing

/-- The data that a document describes. -/
def parse (document : List Char) : Except String Datum :=
  (readDocument document).mapError Fault.message >>= Value.datum

end TestCoverage.Ron
