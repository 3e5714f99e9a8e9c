/-
  TestCoverage.Shell.Condition

  Conditions on texts, numbers and files, written as a list of words.

  What a word means depends on how many words there are and on what stands behind it: an
  operator that has nothing to apply to is a text like any other.
-/
import TestCoverage.Shell.Arithmetic

namespace TestCoverage.Shell

/-- A condition. -/
inductive Condition where
  | isEmpty (text : List Char)
  | equal (a b : List Char)
  | before (a b : List Char)
  | compare (operation : Operation) (a b : List Char)
  /-- a property of what a path leads to, named by a letter -/
  | file (property : Char) (path : List Char)
  /-- a relation of what two paths lead to, named by its operator -/
  | files (relation : String) (a b : List Char)
  /-- a descriptor is joined to somebody who types -/
  | terminal (descriptor : List Char)
  | opposite (condition : Condition)
  | both (first second : Condition)
  | either (first second : Condition)
deriving Repr

/-- What is wrong with the words of a condition. -/
inductive ConditionFault where
  | unexpected (word : List Char)
  | argument (operator : List Char)
  | bracket
  | number (word : List Char)
deriving DecidableEq, Repr

/-- The fault in words. -/
def ConditionFault.message : ConditionFault → List Char
  | unexpected [] => "unexpected operator".toList
  | unexpected word => word ++ ": unexpected operator".toList
  | argument operator => operator ++ ": argument expected".toList
  | bracket => "closing paren expected".toList
  | number word => "Illegal number: ".toList ++ word

namespace Condition

/-- The condition that a text is not empty. -/
def isNotEmpty (text : List Char) : Condition :=
  opposite (isEmpty text)

/-- The condition that never holds. -/
def never : Condition :=
  isNotEmpty []

/-! ## Operators -/

/-- Operators that compare numbers. -/
def comparisons : List (String × Operation) := [
  ("-eq", .equal), ("-ne", .different), ("-lt", .less), ("-le", .lessEqual),
  ("-gt", .greater), ("-ge", .greaterEqual)]

/-- The condition that an operator between two words makes, if it is one. -/
def ofBinary? (operator a b : List Char) : Option Condition :=
  match String.ofList operator with
  | "=" => some (equal a b)
  | "!=" => some (opposite (equal a b))
  | "<" => some (before a b)
  | ">" => some (before b a)
  | "-nt" | "-ot" | "-ef" => some (files (String.ofList operator) a b)
  | name => (comparisons.find? (·.1 = name)).map fun (_, operation) => compare operation a b

/-- The word is an operator that stands between two others. -/
def isBinary (word : List Char) : Bool :=
  (ofBinary? word [] []).isSome

/-- Properties of files. -/
def properties : List Char :=
  ['e', 'f', 'd', 'x', 'r', 'w', 's', 'p', 'S', 'b', 'c', 'h', 'L', 'u', 'g', 'k', 'O', 'G']

/-- The condition that an operator before a word makes, if it is one. -/
def ofUnary? (operator operand : List Char) : Option Condition :=
  match operator with
  | ['-', 'n'] => some (isNotEmpty operand)
  | ['-', 'z'] => some (isEmpty operand)
  | ['-', 't'] => some (terminal operand)
  | ['-', property] => if property ∈ properties then some (file property operand) else none
  | _ => none

/-! ## Reading -/

/-- The words that are left, and the one before them. -/
structure Words where
  last : List Char := []
  rest : List (List Char)

/-- Reads words, or finds a mistake. -/
abbrev Reader := StateT Words (Except ConditionFault)

/-- Passes over a word. -/
def next : Reader Unit :=
  modify fun words => { last := words.rest.headD words.last, rest := words.rest.tail }

/-- Reads the word if it is there. -/
def accept (word : String) : Reader Bool := do
  if (← get).rest.head? = some word.toList then
    next
    return true
  else return false

/-- The operator applies to the word behind it, and is not itself compared with something. -/
def applies (behind : List (List Char)) : Bool :=
  match behind with
  | [] => false
  | [_] => true
  | second :: _ => !isBinary second

/-- Reads a text, or a comparison of it with another. -/
def readOperand : Reader Condition := do
  match (← get).rest with
  | [] => return never
  | [word] =>
    next
    return isNotEmpty word
  | word :: operator :: behind =>
    next
    if isBinary operator then
      next
      match behind with
      | [] => throw (.argument operator)
      | other :: _ =>
        next
        return (ofBinary? operator word other).getD never
    else return isNotEmpty word

mutual

/-- Reads conditions of which one must hold.  The first word may be known to be a text. -/
def readEither : Nat → Bool → Reader Condition
  | 0, _ => return never
  | bound + 1, isText => do
    let first ← readBoth bound isText
    if ← accept "-o" then return either first (← readEither bound false) else return first

/-- Reads conditions that must all hold. -/
def readBoth : Nat → Bool → Reader Condition
  | 0, _ => return never
  | bound + 1, isText => do
    let first ← if isText then readOperand else readSingle bound
    if ← accept "-a" then return both first (← readBoth bound false) else return first

/-- Reads one condition. -/
def readSingle : Nat → Reader Condition
  | 0 => return never
  | bound + 1 => do
    match (← get).rest with
    | ['!'] :: _ =>
      next
      return opposite (← readSingle bound)
    | ['('] :: _ :: _ =>
      next
      if ← accept ")" then return never
      else
        let inner ← readEither bound false
        if ← accept ")" then return inner else throw .bracket
    | operator :: operand :: behind =>
      match ofUnary? operator operand with
      | some condition =>
        if applies (operand :: behind) then
          next
          next
          return condition
        else readOperand
      | none => readOperand
    | _ => readOperand

end

/-- Reads all words. -/
def readAll (isText : Bool) (words : List (List Char)) : Except ConditionFault Condition := do
  let (condition, left) ← (readEither (8 * words.length + 8) isText).run { rest := words }
  if left.rest.isEmpty then return condition else throw (.unexpected left.last)

/-- The condition that words write.  Up to four words have a meaning of their own.  The bound
    is their number. -/
def parse : Nat → List (List Char) → Except ConditionFault Condition
  | 0, _ | _, [] => return never
  | bound + 1, words =>
    let isShort := words.length = 3 ∨ words.length = 4
    if words.length = 3 ∧ isBinary (words.getD 1 []) then readAll true words
    else if isShort ∧ words.head? = some ['('] ∧ words.getLast? = some [')'] then
      readAll false words.tail.dropLast
    else if isShort ∧ words.head? = some ['!'] then
      (parse bound words.tail).map opposite
    else readAll false words

/-! ## Deciding -/

/-- What is known about files. -/
structure FileFacts where
  property : Char → List Char → Bool
  /-- two paths lead to the same file -/
  same : List Char → List Char → Bool

/-- The number that a word of a comparison writes, with white space around it. -/
def numberOf (word : List Char) : Except ConditionFault Int :=
  let inner := (word.dropWhile Char.isWhitespace).reverse.dropWhile Char.isWhitespace
  let text := inner.reverse
  let digits := match text with
    | '-' :: digits | '+' :: digits => digits
    | digits => digits
  if digits.isEmpty ∨ ¬ digits.all Char.isDigit then .error (.number word)
  else
    let n : Int := Expression.ofDigits 10 digits
    .ok (if text.head? = some '-' then -n else n)

/-- Whether a condition holds, given what is known about files.  Files have no times. -/
def holds (facts : FileFacts) : Condition → Except ConditionFault Bool
  | isEmpty text => .ok text.isEmpty
  | equal a b => .ok (a = b)
  | before a b => .ok (a < b)
  | compare operation a b => do
    let a ← numberOf a
    let b ← numberOf b
    return operation.result? a b = some 1
  | file name path => .ok (facts.property name path)
  | files relation a b => .ok (relation = "-ef" && facts.same a b)
  | terminal descriptor => do
    let _ ← numberOf descriptor
    return false
  | opposite condition => return !(← condition.holds facts)
  | both first second => do
    let a ← first.holds facts
    let b ← second.holds facts
    return a && b
  | either first second => do
    let a ← first.holds facts
    let b ← second.holds facts
    return a || b

/-- Whether the condition that words write holds. -/
def decideWords (facts : FileFacts) (words : List (List Char)) : Except ConditionFault Bool := do
  (← parse words.length words).holds facts

end Condition
end TestCoverage.Shell
