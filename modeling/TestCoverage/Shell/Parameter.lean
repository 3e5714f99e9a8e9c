/-
  TestCoverage.Shell.Parameter

  What words stand for, as far as no command has to be carried out for it: the values of
  parameters and of expressions, home directories, and the paths that patterns match.
-/
import TestCoverage.Shell.BuiltIn

namespace TestCoverage.Shell

namespace Run

/-! ## Parameters -/

/-- The value of a parameter with a special name. -/
def special? (name : String) : Run (Option (List Char)) := do
  let process ← process
  match name with
  | "?" => return some (Nat.toDigits 10 process.status)
  | "$" => return some (Nat.toDigits 10 process.number)
  | "#" => return some (Nat.toDigits 10 process.arguments.length)
  | "0" => return some process.name
  | "-" => return some (Utility.optionLetters process)
  | "!" => return process.lastJob.map (Nat.toDigits 10)
  | _ =>
    match Utility.number? name.toList with
    | some n => return process.arguments[n - 1]?
    | none => valueOf? name

/-- The value of a parameter.  All arguments together are one text. -/
def parameter? (name : String) : Run (Option (List Char)) := do
  if name = "@" ∨ name = "*" then
    let arguments := (← process).arguments
    let separator := ((← separators).head?.map ([·])).getD []
    return if arguments.isEmpty then none else some (separator.intercalate arguments)
  else special? name

/-- Gives a parameter a value, which only variables can have. -/
def assignParameter (name : String) (value : List Char) : Run Unit := do
  Utility.checkName name
  assign name value

/-- A missing value is a mistake if an option says so. -/
def checkSet (name : String) (value? : Option (List Char)) : Run Unit := do
  if value?.isNone ∧ (← process).has 'u' ∧ name ∉ ["@", "*", "!"] then
    fail (name.toList ++ ": parameter not set".toList)

/-- The value of an arithmetic expression.  Variables that it assigns are assigned. -/
def calculate (text : List Char) : Run (List Char) := do
  let bindings := (← process).bindings
  let value (name : String) : List Char := ((bindings.get? name).bind (·.value)).getD []
  match Expression.valueOf value text with
  | .ok (result, assigned) =>
    assigned.forM fun (name, n) => assign name (toString n).toList
    return (toString result).toList
  | .error fault => fail (fault.message text)

/-! ## Marks -/

/-- Marks for the characters of an expansion. -/
def marks (inQuotes : Bool) (text : List Char) : List Mark :=
  text.map fun c => if inQuotes then .quoted c else .expanded c

/-- The arguments, each a field of its own. -/
def argumentMarks (inQuotes : Bool) (arguments : List (List Char)) : List Mark :=
  [Mark.gap].intercalate (arguments.map fun argument =>
    (if inQuotes then [Mark.nothing] else []) ++ marks inQuotes argument)

/-! ## Home directories -/

/-- The home directory of a user, who may be nobody in particular. -/
def homeOf? (user : List Char) : Run (Option (List Char)) := do
  if user.isEmpty then valueOf? "HOME"
  else if user = "root".toList then return some "/root".toList
  else return none

/-- The pieces of a text with a home directory for a tilde at its beginning.  The name of the
    user has to end in the text. -/
def homePieces (isEnd : Bool) (text : List Char) : Run (List Piece) := do
  match text with
  | '~' :: rest =>
    let user := rest.takeWhile (· ≠ '/')
    let behind := rest.drop user.length
    if behind.isEmpty ∧ ¬ isEnd then return [.plain text]
    else
      match ← homeOf? user with
      | none => return [.plain text]
      | some [] => return [.plain behind]
      | some home => return [.literal home, .plain behind]
  | _ => return [.plain text]

/-- The pieces of a list with colons between its parts, which may each begin with a tilde. -/
def homeListPieces (isStart isEnd : Bool) (text : List Char) : Run (List Piece) := do
  let parts := Text.pieces ':' text
  let pieces ← parts.zipIdx.mapM fun (part, i) => do
    let own ← if i = 0 ∧ ¬ isStart then pure [Piece.plain part]
      else homePieces (isEnd || i + 1 < parts.length) part
    return (if i = 0 then own else .plain [':'] :: own)
  return pieces.flatten

/-- A word with a home directory for a tilde at its beginning. -/
def withHome (word : Word) : Run Word := do
  match word with
  | .plain text :: rest => return (← homePieces rest.isEmpty text) ++ rest
  | _ => return word

/-- The value of an assignment with home directories for tildes at its beginning and behind
    colons. -/
def withHomes (word : Word) : Run Word := do
  let pieces ← word.zipIdx.mapM fun (piece, i) => do
    match piece with
    | .plain text => homeListPieces (i = 0) (i + 1 = word.length) text
    | _ => return [piece]
  return pieces.flatten

/-! ## Paths -/

/-- The names in a directory that a pattern stands for, in order.  A point at the beginning
    has to be in the pattern. -/
def namesLike (location : Location) (pattern : List Pattern) : Run (List (List Char)) := do
  let names := ['.'] :: ['.', '.'] :: ((← files).namesIn location).map Text.octets
  let shown := names.filter fun name =>
    Pattern.isMatch pattern name
      && (name.head? ≠ some '.' || pattern.head? = some (.exactly '.'))
  return shown.mergeSort fun a b => !decide (b < a)

/-- The paths that the parts of a pattern stand for, seen from a path. -/
def pathsLike (beginning : List Char) : List (List Marked) → Run (List (List Char))
  | [] => return [beginning]
  | part :: parts => do
    let pattern := Pattern.ofMarked part
    let text := part.map (·.1)
    let separator := if parts.isEmpty then [] else ['/']
    if Pattern.isSpecial pattern then
      let directory := if beginning.isEmpty then ['.'] else beginning
      match (← files).find (← process).directory (Text.ofOctets directory) with
      | .ok (location, .directory _) =>
        let names ← namesLike location pattern
        let paths ← names.mapM fun name => pathsLike (beginning ++ name ++ separator) parts
        return paths.flatten
      | _ => return []
    else
      let path := beginning ++ text ++ separator
      if parts.isEmpty ∧ ¬ text.isEmpty then
        match (← files).findEntry (← process).directory (Text.ofOctets path) with
        | .ok _ => return [path]
        | .error _ => return []
      else pathsLike path parts

/-- The paths that a field stands for; the text of the field if it stands for none. -/
def paths (field : List Mark) : Run (List (List Char)) := do
  if Pattern.isSpecial (Mark.pattern field) ∧ ¬ (← process).has 'f' then
    let found ← pathsLike [] (Text.pieces ('/', true) ((field.filterMap Mark.marked?).map
      fun (c, active) => if c = '/' then (c, true) else (c, active)))
    return if found.isEmpty then [Mark.text field] else found
  else return [Mark.text field]

end Run
end TestCoverage.Shell
