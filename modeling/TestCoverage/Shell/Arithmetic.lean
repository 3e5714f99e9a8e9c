/-
  TestCoverage.Shell.Arithmetic

  Integer expressions of 64 bits with variables, as they stand between double brackets.
-/
import TestCoverage.Entries

namespace TestCoverage.Shell

/-- An operation on two numbers. -/
inductive Operation where
  | times | divide | modulo | plus | minus | shiftLeft | shiftRight
  | less | lessEqual | greater | greaterEqual | equal | different
  | bitAnd | bitXor | bitOr | both | either
deriving DecidableEq, Repr

namespace Operation

/-- One for true and zero for false. -/
def truth (b : Bool) : Int :=
  if b then 1 else 0

/-- A number as its bits. -/
def bits (value : Int) : BitVec 64 :=
  BitVec.ofInt 64 value

/-- A number brought to 64 bits. -/
def wrap (value : Int) : Int :=
  (bits value).toInt

/-- The result of an operation.  Only a division by zero has none. -/
def result? (operation : Operation) (a b : Int) : Option Int :=
  match operation with
  | .times => some (wrap (a * b))
  | .divide => if b = 0 then none else some (wrap (a.tdiv b))
  | .modulo => if b = 0 then none else some (wrap (a.tmod b))
  | .plus => some (wrap (a + b))
  | .minus => some (wrap (a - b))
  | .shiftLeft => some (bits a <<< (b.toNat % 64)).toInt
  | .shiftRight => some ((bits a).sshiftRight (b.toNat % 64)).toInt
  | .less => some (truth (a < b))
  | .lessEqual => some (truth (a ≤ b))
  | .greater => some (truth (b < a))
  | .greaterEqual => some (truth (b ≤ a))
  | .equal => some (truth (a = b))
  | .different => some (truth (a ≠ b))
  | .bitAnd => some (bits a &&& bits b).toInt
  | .bitXor => some (bits a ^^^ bits b).toInt
  | .bitOr => some (bits a ||| bits b).toInt
  | .both => some (truth (a ≠ 0 ∧ b ≠ 0))
  | .either => some (truth (a ≠ 0 ∨ b ≠ 0))

end Operation

/-- An expression. -/
inductive Expression where
  | number (value : Int)
  | named (name : String)
  | negative (operand : Expression)
  | complement (operand : Expression)
  | opposite (operand : Expression)
  | binary (operation : Operation) (first second : Expression)
  | choice (condition first second : Expression)
  /-- gives a variable a value, or the result of an operation on it and a value -/
  | assign (name : String) (operation : Option Operation) (value : Expression)
deriving Repr

/-- What is wrong with an expression: what is missing from its text, or what happens when it
    is evaluated. -/
inductive ExpressionFault where
  | operand
  | ending
  | closing
  | colon
  | division
  /-- a variable has a value that is no number -/
  | value (text : List Char)
deriving DecidableEq, Repr

/-- The fault in words. -/
def ExpressionFault.message (text : List Char) : ExpressionFault → List Char
  | operand => about "expecting primary"
  | ending => about "expecting EOF"
  | closing => about "expecting ')'"
  | colon => about "expecting ':'"
  | division => about "division by zero"
  | value text => "Illegal number: ".toList ++ text
where
  about (reason : String) : List Char :=
    "arithmetic expression: ".toList ++ reason.toList ++ ": \"".toList ++ text ++ ['"']

namespace Expression

open Operation (wrap truth)

/-! ## Reading -/

/-- Reads from a text, or finds a mistake. -/
abbrev Reader := StateT (List Char) (Except ExpressionFault)

/-- Passes over white space and reads the text if it is there. -/
def accept (text : String) : Reader Bool := do
  modify (·.dropWhile Char.isWhitespace)
  if text.toList.isPrefixOf (← get) then
    modify (·.drop text.length)
    return true
  else return false

/-- The operators from the weakest to the strongest, those of one strength together.  Of two
    that begin alike the longer comes first. -/
def operators : List (List (String × Operation)) := [
  [("||", .either)],
  [("&&", .both)],
  [("|", .bitOr)],
  [("^", .bitXor)],
  [("&", .bitAnd)],
  [("==", .equal), ("!=", .different)],
  [("<=", .lessEqual), (">=", .greaterEqual), ("<", .less), (">", .greater)],
  [("<<", .shiftLeft), (">>", .shiftRight)],
  [("+", .plus), ("-", .minus)],
  [("*", .times), ("/", .divide), ("%", .modulo)]]

/-- Assignments with an operation. -/
def assignments : List (String × Operation) := [
  ("*=", .times), ("/=", .divide), ("%=", .modulo), ("+=", .plus), ("-=", .minus),
  ("<<=", .shiftLeft), (">>=", .shiftRight), ("&=", .bitAnd), ("^=", .bitXor), ("|=", .bitOr)]

/-- What follows an operator's text when it is really the beginning of a longer one. -/
def continues (operator : String) (rest : List Char) : Bool :=
  match operator, rest with
  | _, '=' :: _ => operator ∉ ["==", "!=", "<=", ">="]
  | "|", '|' :: _ | "&", '&' :: _ | "<", '<' :: _ | ">", '>' :: _ => true
  | _, _ => false

/-- Reads one of the operators, if one is there. -/
def operator? (choices : List (String × Operation)) : Reader (Option Operation) := do
  modify (·.dropWhile Char.isWhitespace)
  let text ← get
  let found := choices.find? fun (operator, _) =>
    operator.toList.isPrefixOf text && !continues operator (text.drop operator.length)
  match found with
  | some (operator, operation) =>
    set (text.drop operator.length)
    return some operation
  | none => return none

/-- The value of a digit. -/
def digitValue (c : Char) : Nat :=
  if c.isDigit then c.toNat - '0'.toNat else c.toLower.toNat - 'a'.toNat + 10

/-- The number that digits write in a base. -/
def ofDigits (base : Nat) (digits : List Char) : Nat :=
  digits.foldl (fun n c => n * base + digitValue c) 0

/-- The character is a digit of a base. -/
def isDigitOf (base : Nat) (c : Char) : Bool :=
  c.isAlphanum && digitValue c < base

/-- The digits at the beginning of a text with their base, which is told by `0x` or `0`, and
    the text behind them. -/
def leadingDigits (text : List Char) : Nat × List Char × List Char :=
  let ofBase (base : Nat) (text : List Char) : Nat × List Char × List Char :=
    (base, text.takeWhile (isDigitOf base), text.dropWhile (isDigitOf base))
  match text with
  | '0' :: x :: c :: rest =>
    if (x = 'x' ∨ x = 'X') ∧ isDigitOf 16 c then ofBase 16 (c :: rest) else ofBase 8 text
  | '0' :: _ => ofBase 8 text
  | _ => ofBase 10 text

/-- The greatest number of 64 bits. -/
def maximum : Nat := 9223372036854775807

/-- The number at the beginning of a text, which is no greater than the greatest one, and the
    text behind it. -/
def leadingNumber? (text : List Char) : Option (Nat × List Char) :=
  let (base, digits, rest) := leadingDigits text
  if digits.isEmpty then none else some (min (ofDigits base digits) maximum, rest)

mutual

/-- Reads an expression. -/
def readExpression : Nat → Reader Expression
  | 0 => throw .operand
  | bound + 1 => do
    let text := (← get).dropWhile Char.isWhitespace
    let name := text.takeWhile fun c => c.isAlphanum || c == '_'
    let behind := (text.drop name.length).dropWhile Char.isWhitespace
    let isName := name.head?.any fun c => !c.isDigit
    let operation? : Option (Option Operation × List Char) :=
      match behind with
      | '=' :: rest => if rest.head? = some '=' then none else some (none, rest)
      | _ =>
        (assignments.find? fun (sign, _) => sign.toList.isPrefixOf behind).map
          fun (sign, operation) => (some operation, behind.drop sign.length)
    match isName, operation? with
    | true, some (operation, rest) =>
      set rest
      return .assign (String.ofList name) operation (← readExpression bound)
    | _, _ =>
      let condition ← readOperands bound operators
      if ← accept "?" then
        let first ← readExpression bound
        if !(← accept ":") then throw .colon
        return .choice condition first (← readExpression bound)
      else return condition

/-- Reads operands with operators of the given strengths between them. -/
def readOperands : Nat → List (List (String × Operation)) → Reader Expression
  | 0, _ => throw .operand
  | bound + 1, [] => readOperand bound
  | bound + 1, choices :: stronger => do
    let first ← readOperands bound stronger
    readOperators bound choices stronger first

/-- Reads operators of one strength and what they apply to. -/
def readOperators : Nat → List (String × Operation) → List (List (String × Operation)) →
    Expression → Reader Expression
  | 0, _, _, _ => throw .operand
  | bound + 1, choices, stronger, first => do
    match ← operator? choices with
    | some operation =>
      let second ← readOperands bound stronger
      readOperators bound choices stronger (.binary operation first second)
    | none => return first

/-- Reads an operand with the signs before it. -/
def readOperand : Nat → Reader Expression
  | 0 => throw .operand
  | bound + 1 => do
    if ← accept "-" then return .negative (← readOperand bound)
    else if ← accept "+" then readOperand bound
    else if ← accept "~" then return .complement (← readOperand bound)
    else if ← accept "!" then return .opposite (← readOperand bound)
    else if ← accept "(" then
      let inner ← readExpression bound
      if ← accept ")" then return inner else throw .closing
    else
      let text ← get
      match leadingNumber? text with
      | some (n, rest) =>
        set rest
        return .number n
      | none =>
        let name := text.takeWhile fun c => c.isAlphanum || c == '_'
        if name.isEmpty then throw .operand
        set (text.drop name.length)
        return .named (String.ofList name)

end

/-- The expression that a text writes.  No text at all stands for zero. -/
def parse (text : List Char) : Except ExpressionFault Expression :=
  if text.all Char.isWhitespace then .ok (.number 0)
  else do
    let (expression, rest) ← (readExpression (16 * text.length + 32)).run text
    if rest.all Char.isWhitespace then return expression else throw .ending

/-! ## Values -/

/-- The number that the value of a variable writes; zero if it is empty. -/
def ofValue? (text : List Char) : Option Int :=
  let (below, digits) := match text with
    | '-' :: digits => (true, digits)
    | '+' :: digits => (false, digits)
    | digits => (false, digits)
  if text.isEmpty then some 0
  else
    match leadingNumber? digits with
    | some (n, []) => some (if below then -(n : Int) else n)
    | _ => none

/-- The result of an operation. -/
def result (operation : Operation) (a b : Int) : Except ExpressionFault Int :=
  match operation.result? a b with
  | some n => .ok n
  | none => .error .division

/-- The value of an expression, with the variables that it assigns. -/
def evaluate (value : String → List Char) :
    Expression → StateT (Entries Int) (Except ExpressionFault) Int
  | .number n => return wrap n
  | .named name => read name
  | .negative operand => return wrap (-(← evaluate value operand))
  | .complement operand => return -(← evaluate value operand) - 1
  | .opposite operand => return truth ((← evaluate value operand) = 0)
  | .binary .both first second => do
    if (← evaluate value first) = 0 then return 0
    return truth ((← evaluate value second) ≠ 0)
  | .binary .either first second => do
    if (← evaluate value first) ≠ 0 then return 1
    return truth ((← evaluate value second) ≠ 0)
  | .binary operation first second => do
    let a ← evaluate value first
    let b ← evaluate value second
    result operation a b
  | .choice condition first second => do
    if (← evaluate value condition) ≠ 0 then evaluate value first else evaluate value second
  | .assign name operation operand => do
    let b ← evaluate value operand
    let assigned ← match operation with
      | none => pure b
      | some operation => do
        let a ← read name
        result operation a b
    modify (·.set name assigned)
    return assigned
where
  read (name : String) : StateT (Entries Int) (Except ExpressionFault) Int := do
    match (← get).get? name with
    | some n => return n
    | none =>
      let text := value name
      match ofValue? text with
      | some n => return n
      | none => throw (.value text)

/-- The value of the expression that a text writes, and what it assigns. -/
def valueOf (value : String → List Char) (text : List Char) :
    Except ExpressionFault (Int × Entries Int) := do
  let expression ← parse text
  (expression.evaluate value).run []

example : (valueOf (fun _ => "41".toList) "i+1".toList).toOption = some (42, []) := by
  decide +kernel
example : (valueOf (fun _ => []) "2 + 3 * (4 - 1) % 5".toList).toOption = some (6, []) := by
  decide +kernel
example : (valueOf (fun _ => []) "x = 7 / -2".toList).toOption = some (-3, [("x", -3)]) := by
  decide +kernel
example : (valueOf (fun _ => []) "1 / 0".toList).toOption = none := by decide +kernel
example : (valueOf (fun _ => []) "08".toList).toOption = none := by decide +kernel
example : (valueOf (fun _ => []) "1 << 4 | 0x0f".toList).toOption = some (31, []) := by
  decide +kernel

end Expression
end TestCoverage.Shell
