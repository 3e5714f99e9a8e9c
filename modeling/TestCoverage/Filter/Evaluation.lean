/-
  TestCoverage.Filter.Evaluation

  Expressions whose operands and operators are arguments of their own.
-/
import TestCoverage.Filter.Regex
import TestCoverage.Filter.Order

namespace TestCoverage.Filter.Evaluation

/-- Why an expression has no value. -/
inductive Mistake where
  /-- nothing stands behind an argument that asks for more -/
  | missingAfter (argument : List Char)
  | unexpected (argument : List Char)
  | closedParenthesis
  | openParenthesis (last : List Char)
  | insteadOfParenthesis (argument : List Char)
  | tooLong
  | notANumber
  | zeroDivision
  | pattern (fault : Regex.Fault)
deriving DecidableEq, Repr

/-- The mistake in words. -/
def Mistake.message : Mistake → List Char
  | missingAfter argument => syntaxError ("missing argument after '".toList ++ argument ++ quote)
  | unexpected argument => syntaxError ("unexpected argument '".toList ++ argument ++ quote)
  | closedParenthesis => syntaxError "unexpected ')'".toList
  | openParenthesis last => syntaxError ("expecting ')' after '".toList ++ last ++ quote)
  | insteadOfParenthesis argument =>
    syntaxError ("expecting ')' instead of '".toList ++ argument ++ quote)
  | tooLong => "syntax error".toList
  | notANumber => "non-integer argument".toList
  | zeroDivision => "division by zero".toList
  | pattern fault => fault.message.toList
where
  quote : List Char := ['\u0027']
  syntaxError (text : List Char) : List Char := "syntax error: ".toList ++ text

/-- What has been read of an expression: its value, its last argument, and the arguments
    behind it. -/
structure Reading where
  value : List Char
  last : List Char
  rest : List (List Char)
deriving DecidableEq, Repr

/-- The number that a text writes. -/
def integer? (text : List Char) : Option Int :=
  match text with
  | '-' :: digits => (number? digits).map fun n => -(n : Int)
  | digits => (number? digits).map fun n => (n : Int)

/-- A number as a value. -/
def ofInteger (n : Int) : List Char :=
  (if n < 0 then ['-'] else []) ++ decimal n.natAbs

/-- A truth value as a value. -/
def ofBool (b : Bool) : List Char :=
  if b then ['1'] else ['0']

/-- The value counts as false. -/
def isNull (value : List Char) : Bool :=
  value.isEmpty || integer? value == some 0

/-- The value of an operation on numbers. -/
def calculate (operator : String) (a b : List Char) : Except Mistake (List Char) :=
  match integer? a, integer? b with
  | some a, some b =>
    match operator with
    | "+" => .ok (ofInteger (a + b))
    | "-" => .ok (ofInteger (a - b))
    | "*" => .ok (ofInteger (a * b))
    | "/" => if b = 0 then .error .zeroDivision else .ok (ofInteger (a.tdiv b))
    | _ => if b = 0 then .error .zeroDivision else .ok (ofInteger (a.tmod b))
  | _, _ => .error .notANumber

/-- The truth of a comparison: of numbers if both are numbers, of texts otherwise. -/
def compared (operator : String) (a b : List Char) : Bool :=
  let order := match integer? a, integer? b with
    | some a, some b => compare a b
    | _, _ => compareTexts a b
  match operator with
  | "<" => order == .lt
  | "<=" => order != .gt
  | "=" | "==" => order == .eq
  | "!=" => order != .eq
  | ">=" => order != .lt
  | _ => order == .gt

/-- What a pattern matches at the beginning of a text: the text of its first group, or the
    number of characters if it has no group. -/
def matched (text pattern : List Char) : Except Mistake (List Char) :=
  match Regex.parse { lenient := true } pattern with
  | .error fault => .error (.pattern fault)
  | .ok regex =>
    let found := regex.matchAt? false (fun _ => true) { rest := text }
    .ok (match found, regex.groupCount with
      | some found, 0 => decimal found.closed.index
      | some found, _ => found.closed.textOf 1
      | none, 0 => ['0']
      | none, _ => [])

/-- The operators of each level, the weakest first. -/
def levels : List (List String) := [
  ["|"], ["&"], ["<", "<=", "=", "==", "!=", ">=", ">"], ["+", "-"], ["*", "/", "%"], [":"]]

/-- The value of an operation. -/
def apply (operator : String) (a b : List Char) : Except Mistake (List Char) :=
  match operator with
  | "|" => .ok (if !isNull a then a else if !isNull b then b else ['0'])
  | "&" => .ok (if isNull a || isNull b then ['0'] else a)
  | ":" => matched a b
  | "+" | "-" | "*" | "/" | "%" => calculate operator a b
  | _ => .ok (ofBool (compared operator a b))

/-- The other operand of an operator is needed, too. -/
def needsOther (operator : String) (value : List Char) : Bool :=
  match operator with
  | "|" => isNull value
  | "&" => !isNull value
  | _ => true

mutual

/-- Reads an expression with operators of the given levels from behind an argument.  What is
    not needed has no value, and so cannot be wrong.  The bound is more than the number of
    levels for each of the arguments. -/
def readLevels (needed : Bool) :
    Nat → List (List String) → List Char → List (List Char) → Except Mistake Reading
  | 0, _, _, _ => .error .tooLong
  | bound + 1, [], last, arguments => readOperand needed bound last arguments
  | bound + 1, level :: levels, last, arguments => do
    let first ← readLevels needed bound levels last arguments
    readOperations needed bound level levels first

/-- Reads operators of a level with the operands behind them, from the left to the right. -/
def readOperations (needed : Bool) :
    Nat → List String → List (List String) → Reading → Except Mistake Reading
  | 0, _, _, _ => .error .tooLong
  | bound + 1, level, levels, first => do
    match first.rest with
    | operator :: rest =>
      let name := String.ofList operator
      if name ∈ level then
        let needed := needed && needsOther name first.value
        let other ← readLevels needed bound levels operator rest
        let value ← if needed then apply name first.value other.value else pure first.value
        readOperations needed bound level levels { other with value }
      else return first
    | [] => return first

/-- Reads an operand: a text, an expression in parentheses, or a function of texts. -/
def readOperand (needed : Bool) :
    Nat → List Char → List (List Char) → Except Mistake Reading
  | 0, _, _ => .error .tooLong
  | _, last, [] => .error (.missingAfter last)
  | bound + 1, _, argument :: rest => do
    match String.ofList argument with
    | "(" =>
      let inner ← readLevels needed bound levels argument rest
      match inner.rest with
      | [')'] :: rest => return { inner with last := [')'], rest }
      | found :: _ => throw (.insteadOfParenthesis found)
      | [] => throw (.openParenthesis inner.last)
    | ")" => throw .closedParenthesis
    | "length" =>
      let text ← readOperand needed bound argument rest
      return { text with value := decimal text.value.length }
    | "match" =>
      let text ← readOperand needed bound argument rest
      let pattern ← readOperand needed bound text.last text.rest
      let value ← if needed then matched text.value pattern.value else pure []
      return { pattern with value }
    | "index" =>
      let text ← readOperand needed bound argument rest
      let chars ← readOperand needed bound text.last text.rest
      let position := match text.value.findIdx? (· ∈ chars.value) with
        | some index => index + 1
        | none => 0
      return { chars with value := decimal position }
    | "substr" =>
      let text ← readOperand needed bound argument rest
      let first ← readOperand needed bound text.last text.rest
      let count ← readOperand needed bound first.last first.rest
      let value := match integer? first.value, integer? count.value with
        | some first, some count =>
          if first ≤ 0 ∨ count ≤ 0 then []
          else (text.value.drop (first.toNat - 1)).take count.toNat
        | _, _ => []
      return { count with value }
    | "+" =>
      match rest with
      | value :: rest => return { value, last := value, rest }
      | [] => throw (.missingAfter argument)
    | _ => return { value := argument, last := argument, rest }

end

/-- The value of an expression that all arguments belong to. -/
def value (arguments : List (List Char)) : Except Mistake (List Char) := do
  let found ← readLevels true (10 * arguments.length + 10) levels [] arguments
  match found.rest with
  | [] => return found.value
  | argument :: _ => throw (.unexpected argument)

end TestCoverage.Filter.Evaluation
