/-
  TestCoverage.Awk.Parser

  Reads the tokens of a program.

  Operators that bind less are read first, each level from the next one.  Every function has
  less fuel than the one that calls it; there are never more calls within each other than a
  multiple of the number of tokens.
-/
import TestCoverage.Awk.Pattern
import TestCoverage.Awk.Syntax
import TestCoverage.Awk.Token

namespace TestCoverage.Awk

namespace Parser

/-- A reader of tokens. -/
abbrev Reader := StateT (List (Token × Nat)) (Except Misprint)

/-! ## Tokens -/

/-- The first token that is left. -/
def peek : Reader (Option Token) :=
  return (← get).head?.map (·.1)

/-- The token behind the first one. -/
def peekNext : Reader (Option Token) :=
  return (← get).tail.head?.map (·.1)

/-- The first token is read. -/
def skip : Reader Unit :=
  modify List.tail

/-- The program cannot be read. -/
def refuse {α : Type} : Reader α := do
  match (← get).head? with
  | some (token, line) => throw ⟨line, "syntax error at or near ".toList ++ token.shown⟩
  | none => throw ⟨0, "missing \x7d near end of file".toList⟩

/-- The first token is the given sign. -/
def isAt (sign : String) : Reader Bool :=
  return (← peek) == some (.sign sign)

/-- Reads a sign if it comes first. -/
def trySign (sign : String) : Reader Bool := do
  if ← isAt sign then
    skip
    return true
  else return false

/-- Reads a sign. -/
def expect (sign : String) : Reader Unit := do
  if ← trySign sign then return
  match (← get).head? with
  | some (.sign "\x7d", line) =>
    if sign = ")" then throw ⟨line, "missing ) near \x7d".toList⟩ else refuse
  | _ => refuse

/-- Reads a word if it comes first. -/
def tryWord (word : String) : Reader Bool := do
  if (← peek) == some (.word word) then
    skip
    return true
  else return false

/-- Line ends are skipped. -/
def skipLines : Reader Unit :=
  modify fun tokens => tokens.dropWhile (·.1 == .lineEnd)

/-- Line ends and semicolons are skipped. -/
def skipEnds : Reader Unit :=
  modify fun tokens => tokens.dropWhile fun (token, _) => token == .lineEnd || token == .sign ";"

/-- Reads a name. -/
def expectName : Reader String := do
  match ← peek with
  | some (.name name) | some (.called name) =>
    skip
    return name
  | _ => refuse

/-- A statement ends before the token. -/
def endsStatement : Option Token → Bool
  | none | some .lineEnd => true
  | some (.sign sign) => sign == ";" || sign == "\x7d"
  | _ => false

/-- Something is written elsewhere behind the token. -/
def redirects : Option Token → Bool
  | some (.sign sign) => sign == ">" || sign == ">>" || sign == "|"
  | _ => false

/-! ## Operators -/

/-- The operation of a sign that assigns; none for an assignment alone. -/
def assignment? (sign : String) : Option (Option Operation) :=
  match sign with
  | "=" => some none
  | "+=" => some (some .add)
  | "-=" => some (some .subtract)
  | "*=" => some (some .multiply)
  | "/=" => some (some .divide)
  | "%=" => some (some .remainder)
  | "^=" => some (some .power)
  | _ => none

/-- The expression can be assigned to. -/
def isTarget : Expression → Bool
  | .variable' _ | .item .. | .field _ => true
  | _ => false

/-- What a sign makes of two operands on a level, if it belongs to it.  The sign that also
    begins a redirection belongs to its level only if it is `greater` than nothing else. -/
def operator? (level : Nat) (greater : Bool) (token : Token) :
    Option (Expression → Expression → Expression) :=
  match level, token with
  | 0, .sign "||" => some .or
  | 1, .sign "&&" => some .and
  | 3, .sign "~" => some (.fits false)
  | 3, .sign "!~" => some (.fits true)
  | 4, .sign "<" => some (.compare .less)
  | 4, .sign "<=" => some (.compare .lessOrEqual)
  | 4, .sign "==" => some (.compare .equal)
  | 4, .sign "!=" => some (.compare .different)
  | 4, .sign ">" => if greater then some (.compare .greater) else none
  | 4, .sign ">=" => some (.compare .greaterOrEqual)
  | 6, .sign "+" => some (.compute .add)
  | 6, .sign "-" => some (.compute .subtract)
  | 7, .sign "*" => some (.compute .multiply)
  | 7, .sign "/" => some (.compute .divide)
  | 7, .sign "%" => some (.compute .remainder)
  | _, _ => none

/-- The number of levels of operators with two operands. -/
def levels : Nat := 8

/-- The level of values that are joined without a sign. -/
def joinLevel : Nat := 5

/-- The token can begin a value that is joined to the one before it. -/
def beginsOperand : Token → Bool
  | .number _ | .text _ | .pattern _ | .name _ | .called _ | .builtIn _ => true
  | .sign sign => ["$", "!", "(", "++", "--"].contains sign
  | _ => false

/-! ## Expressions -/

mutual

/-- Reads an expression. -/
def expression : Nat → Bool → Reader Expression
  | 0, _ => refuse
  | fuel + 1, greater => do
    let condition ← level fuel 0 greater
    if ← trySign "?" then
      skipLines
      let yes ← expression fuel greater
      skipLines
      expect ":"
      skipLines
      return .choose condition yes (← expression fuel greater)
    else return condition

/-- Reads operands and operators of a level and those that bind more. -/
def level : Nat → Nat → Bool → Reader Expression
  | 0, _, _ => refuse
  | fuel + 1, n, greater => do
    if levels ≤ n then unary fuel greater
    else levelRest fuel n greater (← level fuel (n + 1) greater)

/-- Reads the operators of a level behind an operand. -/
def levelRest : Nat → Nat → Bool → Expression → Reader Expression
  | 0, _, _, _ => refuse
  | fuel + 1, n, greater, left => do
    match ← peek with
    | none => return left
    | some token =>
      match operator? n greater token with
      | some build =>
        skip
        if n < 2 then skipLines
        levelRest fuel n greater (build left (← level fuel (n + 1) greater))
      | none =>
        if n = 2 ∧ token == .word "in" then
          skip
          levelRest fuel n greater (.within [left] (← expectName))
        else if n = joinLevel ∧ beginsOperand token then
          levelRest fuel n greater (.join left (← level fuel (n + 1) greater))
        else return left

/-- Reads an operand with a sign before it. -/
def unary : Nat → Bool → Reader Expression
  | 0, _ => refuse
  | fuel + 1, greater => do
    if ← trySign "!" then return .not (← unary fuel greater)
    else if ← trySign "-" then return .negative (← unary fuel greater)
    else if ← trySign "+" then return .positive (← unary fuel greater)
    else pipes fuel (← power fuel greater)

/-- Reads what is read from a program that an operand names. -/
def pipes : Nat → Expression → Reader Expression
  | 0, _ => refuse
  | fuel + 1, command => do
    if (← isAt "|") ∧ (← peekNext) == some (.word "getline") then
      skip
      skip
      pipes fuel (.readProgram (← target? fuel) command)
    else return command

/-- Reads a power. -/
def power : Nat → Bool → Reader Expression
  | 0, _ => refuse
  | fuel + 1, greater => do
    let base ← operand fuel greater
    if ← trySign "^" then return .compute .power base (← exponent fuel greater) else return base

/-- Reads an exponent. -/
def exponent : Nat → Bool → Reader Expression
  | 0, _ => refuse
  | fuel + 1, greater => do
    if ← trySign "-" then return .negative (← exponent fuel greater)
    else if ← trySign "+" then return .positive (← exponent fuel greater)
    else if ← trySign "!" then return .not (← exponent fuel greater)
    else power fuel greater

/-- Reads an operand, and what is done with it if it can be assigned to. -/
def operand : Nat → Bool → Reader Expression
  | 0, _ => refuse
  | fuel + 1, greater => do
    let value ← primary fuel greater
    if ¬ isTarget value then return value
    match ← peek with
    | some (.sign sign) =>
      if sign = "++" ∨ sign = "--" then
        skip
        return .step (sign == "++") false value
      else match assignment? sign with
        | some operation =>
          skip
          skipLines
          return .assign operation value (← expression fuel greater)
        | none => return value
    | _ => return value

/-- Reads an operand. -/
def primary : Nat → Bool → Reader Expression
  | 0, _ => refuse
  | fuel + 1, greater => do
    match ← peek with
    | some (.number value) =>
      skip
      return .number value
    | some (.text text) =>
      skip
      return .text text
    | some (.pattern source) =>
      match Pattern.compile source, (← get).head? with
      | .error message, some (_, line) => throw ⟨line, message⟩
      | _, _ =>
        skip
        return .pattern source
    | some (.name name) =>
      skip
      if ← trySign "[" then
        let keys ← list fuel
        expect "]"
        return .item name keys
      else return .variable' name
    | some (.called name) =>
      skip
      return .call name (← inBrackets fuel)
    | some (.builtIn name) =>
      skip
      if ← isAt "(" then return .builtIn name (← inBrackets fuel) else return .builtIn name []
    | some (.word "getline") =>
      skip
      let target ← target? fuel
      if ← trySign "<" then return .readFile target (← primary fuel greater)
      else return .readMain target
    | some (.sign "$") =>
      skip
      if ← trySign "-" then return .field (.negative (← primary fuel greater))
      else return .field (← primary fuel greater)
    | some (.sign "++") =>
      skip
      return .step true true (← primary fuel greater)
    | some (.sign "--") =>
      skip
      return .step false true (← primary fuel greater)
    | some (.sign "(") =>
      match ← inBrackets fuel with
      | [inner] => return inner
      | [] => refuse
      | keys =>
        if ← tryWord "in" then return .within keys (← expectName) else refuse
    | _ => refuse

/-- Reads what can be assigned to, if it comes next. -/
def target? : Nat → Reader (Option Expression)
  | 0 => refuse
  | fuel + 1 => do
    match ← peek with
    | some (.name _) | some (.sign "$") => return some (← primary fuel true)
    | _ => return none

/-- Reads expressions in brackets. -/
def inBrackets : Nat → Reader (List Expression)
  | 0 => refuse
  | fuel + 1 => do
    expect "("
    skipLines
    if ← trySign ")" then return []
    let expressions ← list fuel
    expect ")"
    return expressions

/-- Reads expressions with commas between them. -/
def list : Nat → Reader (List Expression)
  | 0 => refuse
  | fuel + 1 => do
    let first ← expression fuel true
    skipLines
    if ← trySign "," then
      skipLines
      return first :: (← list fuel)
    else return [first]

end

/-- Reads expressions to be written, with commas between them. -/
def written (fuel : Nat) : Nat → Reader (List Expression)
  | 0 => refuse
  | bound + 1 => do
    let first ← expression fuel false
    if ← trySign "," then
      skipLines
      return first :: (← written fuel bound)
    else return [first]

/-- Reads the values that a statement writes. -/
def writtenValues (fuel : Nat) : Reader (List Expression) := do
  let first ← peek
  if endsStatement first ∨ redirects first then return []
  else if first == some (.sign "(") then
    let before ← get
    match (inBrackets fuel).run before with
    | .ok (values, after) =>
      let next := after.head?.map (·.1)
      if endsStatement next ∨ redirects next then
        set after
        return values
      else written fuel fuel
    | .error _ => written fuel fuel
  else written fuel fuel

/-- Reads where something is written. -/
def destination (fuel : Nat) : Reader Destination := do
  if ← trySign ">" then return .file (← expression fuel true) false
  else if ← trySign ">>" then return .file (← expression fuel true) true
  else if ← trySign "|" then return .program (← expression fuel true)
  else return .output

/-! ## Statements -/

/-- Reads the end of a statement. -/
def statementEnd : Reader Unit := do
  let next ← peek
  if next == some (.sign "\x7d") ∨ next.isNone then return
  else if endsStatement next then skipEnds
  else refuse

/-- Reads a statement that has no others in it. -/
def simple (fuel : Nat) : Reader Statement := do
  if ← tryWord "print" then
    let values ← writtenValues fuel
    return .print values (← destination fuel)
  else if ← tryWord "printf" then
    let values ← writtenValues fuel
    if values.isEmpty then refuse
    return .format values (← destination fuel)
  else if ← tryWord "next" then return .next
  else if ← tryWord "nextfile" then return .nextFile
  else if ← tryWord "break" then return .break'
  else if ← tryWord "continue" then return .continue'
  else if ← tryWord "exit" then
    if endsStatement (← peek) then return .exit none
    else return .exit (some (← expression fuel true))
  else if ← tryWord "return" then
    if endsStatement (← peek) then return .return' none
    else return .return' (some (← expression fuel true))
  else if ← tryWord "delete" then
    let name ← expectName
    if ← trySign "[" then
      let keys ← list fuel
      expect "]"
      return .deleteItem name keys
    else return .deleteAll name
  else return .expression (← expression fuel true)

/-- The tokens begin a loop over the keys of an array: the name for the keys, and the array. -/
def keysLoop? : List (Token × Nat) → Option (String × String)
  | (.sign "(", _) :: (.name key, _) :: (.word "in", _) :: (.name array, _) ::
      (.sign ")", _) :: _ => some (key, array)
  | _ => none

mutual

/-- Reads a statement. -/
def statement : Nat → Reader (List Statement)
  | 0 => refuse
  | fuel + 1 => do
    if ← trySign "\x7b" then
      let body ← block fuel
      let _ ← trySign ";"
      return body
    else if ← trySign ";" then return []
    else if ← tryWord "if" then
      let condition ← condition' fuel
      let yes ← body fuel
      let before ← get
      skipEnds
      if ← tryWord "else" then return [.branch condition yes (← body fuel)]
      else
        set before
        return [.branch condition yes []]
    else if ← tryWord "while" then
      let condition ← condition' fuel
      if ← trySign ";" then return [.while' condition []]
      return [.while' condition (← body fuel)]
    else if ← tryWord "do" then
      let repeated ← body fuel
      skipEnds
      if ← tryWord "while" then
        let condition ← condition' fuel
        statementEnd
        return [.repeat' repeated condition]
      else refuse
    else if ← tryWord "for" then
      match keysLoop? (← get) with
      | some (key, array) =>
        modify (·.drop 5)
        return [.forEach key array (← body fuel)]
      | none =>
        expect "("
        let first ← if ← isAt ";" then pure [] else pure [← simple fuel]
        expect ";"
        skipLines
        let condition ←
          if ← isAt ";" then pure (.number (.ofNat 1)) else expression fuel true
        expect ";"
        skipLines
        let step ← if ← isAt ")" then pure [] else pure [← simple fuel]
        expect ")"
        if ← trySign ";" then return [.count first condition step []]
        return [.count first condition step (← body fuel)]
    else
      let statement ← simple fuel
      statementEnd
      return [statement]

/-- Reads a condition in brackets. -/
def condition' : Nat → Reader Expression
  | 0 => refuse
  | fuel + 1 => do
    expect "("
    skipLines
    let condition ← expression fuel true
    skipLines
    expect ")"
    return condition

/-- Reads the statement to which a condition or a loop belongs. -/
def body : Nat → Reader (List Statement)
  | 0 => refuse
  | fuel + 1 => do
    skipLines
    statement fuel

/-- Reads statements up to the brace at their end. -/
def block : Nat → Reader (List Statement)
  | 0 => refuse
  | fuel + 1 => do
    skipEnds
    if ← trySign "\x7d" then return []
    let first ← statement fuel
    return first ++ (← block fuel)

end

/-! ## Rules and functions -/

/-- Reads statements in braces. -/
def braces (fuel : Nat) : Reader (List Statement) := do
  expect "\x7b"
  block fuel

/-- Reads the names of parameters. -/
def parameters : Nat → Reader (List String)
  | 0 => refuse
  | bound + 1 => do
    let name ← expectName
    if ← trySign "," then
      skipLines
      return name :: (← parameters bound)
    else return [name]

/-- Reads a function from behind its word. -/
def function (fuel : Nat) : Reader Function := do
  let name ← expectName
  expect "("
  let parameters ← if ← isAt ")" then pure [] else parameters fuel
  expect ")"
  skipLines
  return { name, parameters, body := ← braces fuel }

/-- Reads a rule. -/
def rule (fuel : Nat) : Reader Rule := do
  if ← tryWord "BEGIN" then return ⟨.begin, some (← braces fuel)⟩
  else if ← tryWord "END" then return ⟨.finish, some (← braces fuel)⟩
  else if ← isAt "\x7b" then return ⟨.always, some (← braces fuel)⟩
  else
    let first ← expression fuel true
    let condition ← if ← trySign "," then
        skipLines
        pure (Condition.between first (← expression fuel true))
      else pure (Condition.when first)
    if ← isAt "\x7b" then return ⟨condition, some (← braces fuel)⟩
    else return ⟨condition, none⟩

/-- Reads rules and functions to the end. -/
def program (fuel : Nat) : Nat → Reader Program
  | 0 => refuse
  | bound + 1 => do
    let _ ← trySign ";"
    skipLines
    if (← get).isEmpty then return {}
    else if ← tryWord "function" then
      let function ← function fuel
      let rest ← program fuel bound
      return { rest with functions := function :: rest.functions }
    else
      let rule ← rule fuel
      let rest ← program fuel bound
      return { rest with rules := rule :: rest.rules }

end Parser

/-- The program that a text writes.  What is missing at its end is missing in the line behind
    it. -/
def Program.ofText (text : List Char) : Except Misprint Program := do
  let tokens ← Tokens.ofText text
  let fuel := 20 * (tokens.length + 5)
  match (Parser.program fuel (tokens.length + 1)).run tokens with
  | .ok (program, _) => return program
  | .error misprint =>
    let behind := text.count '\n' + 2
    throw { misprint with line := if misprint.line = 0 then behind else misprint.line }

end TestCoverage.Awk
