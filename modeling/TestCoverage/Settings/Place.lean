/-
  TestCoverage.Settings.Place

  Places among the settings, as the keys of a layer write them: `tools.kcov`, `tools[2]`.

  A key is a name followed by steps, each a point and a name or an index in brackets.  A
  key that is not of this form is a name as a whole.  Filling a place makes the tables and
  lists on the way to it, in place of whatever else is there.
-/
import TestCoverage.Decimal.Reading
import TestCoverage.Settings.Item

namespace TestCoverage.Settings

/-- A step into a value. -/
inductive Step where
  | name (name : String)
  | index (index : Nat)
deriving DecidableEq, Repr

/-- A name at the top and the steps from there. -/
structure Place where
  first : String
  steps : List Step
deriving DecidableEq, Repr

namespace Place

/-! ## Reading -/

/-- The character may stand in a name. -/
def isNameChar (c : Char) : Bool :=
  c.isAlphanum || c == '_' || c == '-' || c == ' '

/-- The character may stand around an index. -/
def isIndexSpace (c : Char) : Bool :=
  c == ' ' || c == '\t'

/-- Reads a name. -/
def readName? (text : List Char) : Option (String × List Char) :=
  let name := text.takeWhile isNameChar
  if name.isEmpty then none
  else some (Text.lowered (String.ofList name), text.dropWhile isNameChar)

/-- Reads an index, behind its opening bracket. -/
def readIndex? (text : List Char) : Option (Nat × List Char) :=
  let text := text.dropWhile isIndexSpace
  let digits := text.takeWhile Char.isDigit
  let index := Decimal.natural 0 digits
  if digits.isEmpty ∨ Decimal.twoTo 63 ≤ index then none
  else
    match (text.dropWhile Char.isDigit).dropWhile isIndexSpace with
    | ']' :: rest => some (index, rest)
    | _ => none

/-- Reads steps to the end of the text.  There are fewer than the bound. -/
def readSteps? : Nat → List Char → Option (List Step)
  | _, [] => some []
  | 0, _ :: _ => none
  | bound + 1, c :: rest => do
    if c = '.' then
      let (name, rest) ← readName? rest
      let steps ← readSteps? bound rest
      return .name name :: steps
    else if c = '[' then
      let (index, rest) ← readIndex? rest
      let steps ← readSteps? bound rest
      return .index index :: steps
    else none

/-- The place that a text writes, if it is of the form. -/
def parse? (text : List Char) : Option Place := do
  let (first, rest) ← readName? text
  let steps ← readSteps? rest.length rest
  return ⟨first, steps⟩

/-- The place that a key stands for. -/
def ofKey (key : String) : Place :=
  (parse? key.toList).getD ⟨Text.lowered key, []⟩

/-! ## Filling -/

/-- The list with blanks behind it up to the given length. -/
def padded (length : Nat) (elements : List Item) : List Item :=
  elements ++ List.replicate (length - elements.length) Item.blank

/-- The value with another one at the end of the steps. -/
def fill (item : Item) : List Step → Item → Item
  | [], _ => item
  | [.name name], target => target.assignIn name item
  | .name name :: steps, target =>
    let inner := (target.entries.get? name).getD .blank
    target.withEntries (target.entries.set name (fill item steps inner))
  | .index index :: steps, target =>
    let elements := padded (index + 1) target.elements
    target.withElements (elements.modify index (fill item steps))

/-- The entries with a value at a place. -/
def assign (place : Place) (item : Item) (entries : Entries Item) : Entries Item :=
  match place.steps with
  | [] => Item.assign entries place.first item
  | steps =>
    let inner := (entries.get? place.first).getD .blank
    entries.set place.first (fill item steps inner)

example : ofKey "Tools.kcov" = ⟨"tools", [.name "kcov"]⟩ := by decide +kernel
example : ofKey "tools[ 2 ].a b" = ⟨"tools", [.index 2, .name "a b"]⟩ := by decide +kernel
example : ofKey "tools..kcov" = ⟨"tools..kcov", []⟩ := by decide +kernel
example : ofKey "tools[\n0]" = ⟨"tools[\n0]", []⟩ := by decide +kernel
example : ofKey "tools[x]" = ⟨"tools[x]", []⟩ := by decide +kernel

end Place
end TestCoverage.Settings
