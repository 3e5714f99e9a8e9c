/-
  TestCoverage.Awk.Evaluation

  Runs programs that work on records.

  Expressions, statements and calls are evaluated by functions that call each other, each with
  less fuel than the one before.  A program whose fuel runs out goes on for too long.
-/
import TestCoverage.Awk.Machine
import TestCoverage.Decimal.Function

namespace TestCoverage.Awk

open Shell (Run)

namespace Act

/-! ## What needs no expressions -/

/-- What can be assigned to, with all its keys and numbers known. -/
inductive Slot where
  | variable' (name : String)
  | item (array : String) (key : Key)
  | field (number : Nat)

/-- The value that is there. -/
def load : Slot → Act Value
  | .variable' name => valueOf name
  | .item array key => item array key
  | .field number => field number

/-- Puts a value there. -/
def store (slot : Slot) (value : Value) : Act Unit :=
  match slot with
  | .variable' name => setValue name value
  | .item array key => setItem array key value
  | .field number => setField number value

/-- The result of an operation. -/
def compute (operation : Operation) (x y : Binary64) : Binary64 :=
  match operation with
  | .add => .sum x y
  | .subtract => .difference x y
  | .multiply => .product x y
  | .divide => .quotient x y
  | .remainder => .remainder x y
  | .power => .power x y

/-- Two values are to each other as they are to be. -/
def isRelated (relation : Relation) (order : Option Ordering) : Bool :=
  match relation with
  | .less => order == some .lt
  | .lessOrEqual => order == some .lt || order == some .eq
  | .equal => order == some .eq
  | .different => order != some .eq
  | .greater => order == some .gt
  | .greaterOrEqual => order == some .gt || order == some .eq

/-- A part of a text from a place on, the first place being one.  A part that begins before all
    places is longer by as many as there are between its beginning and them. -/
def partOf (text : List Char) (start : Int) (length : Option Int) : List Char :=
  let length := length.getD text.length
  if start < 1 then text.take (length - start).toNat
  else (text.drop (start - 1).toNat).take length.toNat

/-- The next random number, at least zero and less than one. -/
def random : Act Value := do
  let next := ((← get).chance * 1103515245 + 12345) % 2147483648
  modify fun machine => { machine with chance := next }
  return .number (.ofRatio false next 2147483648)

/-- Begins the random numbers with a value, and gives the value with which they have begun
    before. -/
def begin (value : Value) : Act Value := do
  let before := (← get).seed
  modify fun machine =>
    { machine with seed := value, chance := value.toInt.natAbs % 2147483648 }
  return before

/-- Keeps where a match begins, and how long it is. -/
def keepMatch (found : Option Filter.Regex.Match) : Act Value := do
  let (start, length) : Int × Int := match found with
    | some found => (found.opened.index + 1, found.text.length)
    | none => (0, -1)
  setValue "RSTART" (.ofInt start)
  setValue "RLENGTH" (.ofInt length)
  return .ofInt start

/-- Does something with a number. -/
def onNumber (function : Binary64 → Binary64) (value : Value) : Value :=
  .number (function value.toNumber)

/-- The functions of one number. -/
def numberFunction? (name : String) : Option (Binary64 → Binary64) :=
  match name with
  | "sin" => some Binary64.sine
  | "cos" => some Binary64.cosine
  | "exp" => some Binary64.exponential
  | "log" => some Binary64.logarithm
  | "sqrt" => some Binary64.squareRoot
  | "int" => some fun x => (x.whole?.map Binary64.ofInt).getD x
  | _ => none

/-- Makes a new array for a parameter that has been given nothing. -/
def newArray : Act Binding := do
  let number := (← get).arrays + 1
  modify fun machine => { machine with arrays := number }
  return .array (toString number)

/-- A list of values as they are printed. -/
def printed (values : List Value) : Act (List Char) := do
  let texts ← values.mapM fun value => do
    match value with
    | .number _ => return value.toText (← textIn "OFMT")
    | _ => textOf value
  return (← textIn "OFS").intercalate texts ++ (← textIn "ORS")

/-- The text of values by a format.  A mistake ends everything behind the text up to it, unless
    that is not written. -/
def formatted (function : String) (format : Value) (values : List Value)
    (emits : List Char → Act Unit) : Act (List Char) := do
  let format ← textOf format
  let (text, mistake) := Layout.text (← numbers) format values
  match mistake with
  | none => return text
  | some mistake => do
    emits text
    fail (mistake.message function format)

/-! ## Expressions and statements -/

mutual

/-- The value of an expression. -/
def value (call : Call) : Nat → Expression → Act Value
  | 0, _ => tire
  | fuel + 1, expression => do
    match expression with
    | .number x => return .number x
    | .text s => return .text s
    | .pattern source =>
      let regex ← orFail (Pattern.compile source)
      return .ofBool (regex.occursIn false (← textOf (← field 0)))
    | .variable' _ | .item .. | .field _ => load (← slot call fuel expression)
    | .assign operation target source =>
      let slot ← slot call fuel target
      let new ← value call fuel source
      let result ← match operation with
        | none => pure new
        | some operation =>
          pure (.number (compute operation (← load slot).toNumber new.toNumber))
      store slot result
      return result
    | .step up before target =>
      let slot ← slot call fuel target
      let old := (← load slot).toNumber
      let new := compute (if up then .add else .subtract) old (.ofInt 1)
      store slot (.number new)
      return .number (if before then new else old)
    | .negative inner => return onNumber Binary64.negated (← value call fuel inner)
    | .positive inner => return onNumber id (← value call fuel inner)
    | .not inner => return .ofBool (!(← value call fuel inner).holds)
    | .compute operation first second =>
      let x := (← value call fuel first).toNumber
      let y := (← value call fuel second).toNumber
      return .number (compute operation x y)
    | .join first second =>
      let s ← textOf (← value call fuel first)
      let t ← textOf (← value call fuel second)
      return .text (s ++ t)
    | .compare relation first second =>
      let x ← value call fuel first
      let y ← value call fuel second
      return .ofBool (isRelated relation (x.order? (← numbers) y))
    | .fits negated inner pattern =>
      let text ← textOf (← value call fuel inner)
      let regex ← regex call fuel pattern
      return .ofBool (regex.occursIn false text != negated)
    | .within keys array =>
      let key ← keyOf (← values call fuel keys)
      let array ← arrayOf array
      let table := (← table array).lookFor false key
      setTable array table
      return .ofBool (table.get? key).isSome
    | .and first second =>
      if (← value call fuel first).holds then
        return .ofBool (← value call fuel second).holds
      else return .ofBool false
    | .or first second =>
      if (← value call fuel first).holds then return .ofBool true
      else return .ofBool (← value call fuel second).holds
    | .choose condition yes no =>
      if (← value call fuel condition).holds then value call fuel yes
      else value call fuel no
    | .call name arguments => callFunction call fuel name arguments
    | .builtIn name arguments => builtIn call fuel name arguments
    | .readMain target =>
      match ← readMain (← operandBound) with
      | none => return .ofInt 0
      | some record =>
        countRecord
        keep call fuel target record
    | .readFile target file =>
      let file ← textOf (← value call fuel file)
      match ← readSource call (.file file) with
      | .error () => return .ofInt (-1)
      | .ok none => return .ofInt 0
      | .ok (some record) => keep call fuel target record
    | .readProgram target command =>
      let command ← textOf (← value call fuel command)
      match ← readSource call (.program command) with
      | .error () => return .ofInt (-1)
      | .ok none => return .ofInt 0
      | .ok (some record) => keep call fuel target record

/-- The values of expressions. -/
def values (call : Call) : Nat → List Expression → Act (List Value)
  | 0, _ => tire
  | _, [] => return []
  | fuel + 1, expression :: expressions => do
    let first ← value call fuel expression
    return first :: (← values call fuel expressions)

/-- Makes a record that has been read the value of a target, or the record of the program. -/
def keep (call : Call) : Nat → Option Expression → List Char → Act Value
  | 0, _, _ => tire
  | fuel + 1, target, record => do
    match target with
    | none => setRecord record
    | some target => store (← slot call fuel target) (.input record)
    return .ofInt 1

/-- What an expression leads to that can be assigned to. -/
def slot (call : Call) : Nat → Expression → Act Slot
  | 0, _ => tire
  | fuel + 1, expression => do
    match expression with
    | .variable' name => return .variable' name
    | .item array keys =>
      let key ← keyOf (← values call fuel keys)
      return .item (← arrayOf array) key
    | .field number => return .field (← fieldNumber (← value call fuel number))
    | _ => stop "cannot assign".toList

/-- The regular expression that an expression stands for. -/
def regex (call : Call) : Nat → Expression → Act Filter.Regex
  | 0, _ => tire
  | fuel + 1, expression => do
    match expression with
    | .pattern source => orFail (Pattern.compile source)
    | _ => orFail (Pattern.compile (← textOf (← value call fuel expression)))

/-- Calls a function that is always there. -/
def builtIn (call : Call) : Nat → String → List Expression → Act Value
  | 0, _, _ => tire
  | fuel + 1, name, arguments => do
    let text (expression : Expression) : Act (List Char) := do
      textOf (← value call fuel expression)
    match name, arguments with
    | "length", [] => return .ofInt (← textOf (← field 0)).length
    | "length", [.variable' name] =>
      match ← binding name with
      | .array key => return .ofInt (← table key).values.length
      | .value _ => return .ofInt (← textOf (← valueOf name)).length
    | "length", [argument] => return .ofInt (← text argument).length
    | "substr", argument :: start :: rest =>
      let whole ← text argument
      let start := (← value call fuel start).toInt
      let length ← match rest with
        | length :: _ => pure (some (← value call fuel length).toInt)
        | [] => pure none
      return .text (partOf whole start length)
    | "index", [whole, part] =>
      let whole ← text whole
      let part ← text part
      let place := (List.range (whole.length + 1)).find? fun i =>
        part.isPrefixOf (whole.drop i)
      return .ofInt ((place.map fun i => (i + 1 : Nat)).getD 0)
    | "split", whole :: .variable' array :: rest =>
      let whole ← text whole
      let separator ← match rest with
        | .pattern source :: _ => pure source
        | separator :: _ => text separator
        | [] => textIn "FS"
      let parts ← split separator whole
      setTable (← arrayOf array) (.ofValues parts)
      return .ofInt parts.length
    | "sub", pattern :: replacement :: rest | "gsub", pattern :: replacement :: rest =>
      let regex ← regex call fuel pattern
      let replacement ← text replacement
      let slot ← slot call fuel (rest.headD (.field (.number (.ofInt 0))))
      let (changed, count) :=
        Pattern.replace regex (name == "gsub") replacement (← textOf (← load slot))
      if 0 < count then store slot (.text changed)
      return .ofInt count
    | "match", [whole, pattern] =>
      let whole ← text whole
      let regex ← regex call fuel pattern
      keepMatch (regex.find? false { rest := whole })
    | "sprintf", format :: rest =>
      let format ← value call fuel format
      let written ← formatted "sprintf" format (← values call fuel rest) fun _ => return
      return .text written
    | "atan2", [y, x] =>
      let y := (← value call fuel y).toNumber
      return .number (.angleOf y (← value call fuel x).toNumber)
    | "rand", [] => random
    | "srand", [] => begin .nothing
    | "srand", [seed] => begin (← value call fuel seed)
    | "tolower", [argument] => return .text ((← text argument).map Char.toLower)
    | "toupper", [argument] => return .text ((← text argument).map Char.toUpper)
    | "system", [command] =>
      let command ← text command
      flush
      return .ofInt (← statusOf (← Run.attempt (call command)))
    | "close", argument :: _ => return .ofInt (← close call (← text argument))
    | "fflush", [] =>
      flush
      return .ofInt 0
    | "fflush", [argument] =>
      let argument ← text argument
      flush
      let isKnown := (← get).sinks.any (·.name = argument) || argument.isEmpty
      return .ofInt (if isKnown then 0 else -1)
    | _, [argument] =>
      match numberFunction? name with
      | some function => return onNumber function (← value call fuel argument)
      | none => stop ("wrong number of arguments in call to ".toList ++ name.toList)
    | _, _ => stop ("wrong number of arguments in call to ".toList ++ name.toList)

/-- What a parameter is bound to for an argument: an array goes by its name. -/
def argument (call : Call) : Nat → Expression → Act Binding
  | 0, _ => tire
  | fuel + 1, expression => do
    match expression with
    | .variable' name =>
      if name = "NF" then return .value (← valueOf name) else binding name
    | _ => return .value (← value call fuel expression)

/-- What parameters are bound to for arguments. -/
def passed (call : Call) : Nat → List String → List Expression → Act (Entries Binding)
  | 0, _, _ => tire
  | _, [], _ => return []
  | fuel + 1, name :: names, arguments => do
    let first ← match arguments with
      | expression :: _ => argument call fuel expression
      | [] => newArray
    return (name, first) :: (← passed call fuel names arguments.tail)

/-- Calls a function of the program. -/
def callFunction (call : Call) : Nat → String → List Expression → Act Value
  | 0, _, _ => tire
  | fuel + 1, name, arguments => do
    match (← get).program.functions.find? (·.name = name) with
    | none => stop ("function ".toList ++ name.toList ++ " never defined".toList)
    | some function =>
      let machine ← get
      let before := machine.locals
      let count := machine.arrays
      let locals ← passed call fuel function.parameters arguments
      modify fun machine => { machine with locals }
      let result ← attempt (execute call fuel function.body)
      let own := locals.drop arguments.length
      modify fun machine => { machine with
        locals := before
        arrays := count
        tables := own.foldl (fun tables (_, binding) =>
          match binding with
          | .array key => tables.erase key
          | .value _ => tables) machine.tables }
      match result with
      | .ok () => return .nothing
      | .error (.finish value) => return value
      | .error leave => throw leave

/-- Carries out statements one after the other. -/
def execute (call : Call) : Nat → List Statement → Act Unit
  | 0, _ => tire
  | _, [] => return
  | fuel + 1, statement :: statements => do
    perform call fuel statement
    execute call fuel statements

/-- Carries out a statement. -/
def perform (call : Call) : Nat → Statement → Act Unit
  | 0, _ => tire
  | fuel + 1, statement => do
    match statement with
    | .expression expression =>
      let _ ← value call fuel expression
    | .print expressions destination =>
      let values ← if expressions.isEmpty then pure [← field 0] else values call fuel expressions
      let text ← printed values
      output call fuel destination text
    | .format expressions destination =>
      match ← values call fuel expressions with
      | [] => return
      | format :: rest =>
        let text ← formatted "printf" format rest (output call fuel destination)
        output call fuel destination text
    | .branch condition yes no =>
      if (← value call fuel condition).holds then execute call fuel yes
      else execute call fuel no
    | .while' condition body => loop call fuel condition [] body
    | .repeat' body condition =>
      if ← round call fuel body then loop call fuel condition [] body
    | .count first condition step body =>
      execute call fuel first
      loop call fuel condition step body
    | .forEach name array body =>
      let array ← arrayOf array
      let table := (← table array).withTexts
      setTable array table
      forKeys call fuel name table.keys body
    | .break' => throw .leaveLoop
    | .continue' => throw .nextRound
    | .next => throw .nextRecord
    | .nextFile => throw .nextFile
    | .exit none => throw (.exit none)
    | .exit (some status) =>
      let status := (← value call fuel status).toInt
      throw (.exit (some (status % 256).toNat))
    | .return' none => throw (.finish .nothing)
    | .return' (some result) =>
      let result ← value call fuel result
      throw (.finish result)
    | .deleteItem array keys =>
      let key ← keyOf (← values call fuel keys)
      let array ← arrayOf array
      setTable array ((← table array).without key)
    | .deleteAll array => setTable (← arrayOf array) {}

/-- Writes a text to its destination. -/
def output (call : Call) : Nat → Destination → List Char → Act Unit
  | 0, _, _ => tire
  | fuel + 1, destination, text => do
    match destination with
    | .output => emit standardOutput text (return .descriptor 1)
    | .file name keeps =>
      let name ← textOf (← value call fuel name)
      let name := if name = ['-'] then standardOutput else name
      emit name text (openTarget keeps name)
    | .program command =>
      let command ← textOf (← value call fuel command)
      emit command text do
        flush
        return .program

/-- Carries out the body of a loop once; false if the loop is left. -/
def round (call : Call) : Nat → List Statement → Act Bool
  | 0, _ => tire
  | fuel + 1, body => do
    match ← attempt (execute call fuel body) with
    | .ok () | .error .nextRound => return true
    | .error .leaveLoop => return false
    | .error leave => throw leave

/-- Carries out a loop as long as its condition holds. -/
def loop (call : Call) : Nat → Expression → List Statement → List Statement → Act Unit
  | 0, _, _, _ => tire
  | fuel + 1, condition, step, body => do
    if (← value call fuel condition).holds then
      if ← round call fuel body then
        execute call fuel step
        loop call fuel condition step body

/-- Carries out a loop over keys. -/
def forKeys (call : Call) : Nat → String → List (List Char) → List Statement → Act Unit
  | 0, _, _, _ => tire
  | _, _, [], _ => return
  | fuel + 1, name, key :: keys, body => do
    setValue name (.text key)
    if ← round call fuel body then forKeys call fuel name keys body

end

/-! ## Rules -/

/-- Whether a rule applies to the record.  The place of the rule tells it from others. -/
def applies (call : Call) (fuel place : Nat) (condition : Condition) : Act Bool := do
  match condition with
  | .begin | .finish => return false
  | .always => return true
  | .when condition => return (← value call fuel condition).holds
  | .between first last =>
    let isInside := (← get).inside.contains place
    if isInside || (← value call fuel first).holds then
      let ends := (← value call fuel last).holds
      modify fun machine =>
        let others := machine.inside.filter (· ≠ place)
        { machine with inside := if ends then others else place :: others }
      return true
    else return false

/-- Carries out what a rule does.  One without statements writes the record. -/
def carryOut (call : Call) (fuel : Nat) (rule : Rule) : Act Unit := do
  match rule.body with
  | some body => execute call fuel body
  | none => perform call fuel (.print [] .output)

/-- Applies all rules to the record. -/
def applyRules (call : Call) (fuel : Nat) : Act Unit := do
  (← get).program.rules.zipIdx.forM fun (rule, place) => do
    if ← applies call fuel place rule.condition then carryOut call fuel rule

/-- Applies the rules to one record after the other. -/
def applyToAll (call : Call) : Nat → Act Unit
  | 0 => tire
  | fuel + 1 => do
    match ← readMain (← operandBound) with
    | none => return
    | some record =>
      countRecord
      setRecord record
      match ← attempt (applyRules call fuel) with
      | .ok () | .error .nextRecord => applyToAll call fuel
      | .error .nextFile =>
        modify fun machine => { machine with main := none }
        applyToAll call fuel
      | .error leave => throw leave

/-- Carries out the rules for the beginning, or for the end. -/
def carryOutAll (call : Call) (fuel : Nat) (atEnd : Bool) : Act Unit := do
  (← get).program.rules.forM fun rule => do
    match rule.condition, atEnd with
    | .begin, false | .finish, true => carryOut call fuel rule
    | _, _ => return

/-- The rule reads records, or comes behind them. -/
def Rule.needsRecords (rule : Rule) : Bool :=
  match rule.condition with
  | .begin => false
  | _ => true

/-- The status with which something ends, if it has been left with one; the one before counts
    where none is told. -/
def statusBehind (before : Nat) (act : Act Unit) : Act Nat := do
  match ← attempt act with
  | .error (.exit status) => return status.getD before
  | .error (.stop status) => throw (.stop status)
  | _ => return before

/-- Carries out all rules in their turn, and gives the status. -/
def runRules (call : Call) (fuel : Nat) : Act Nat := do
  let status ← statusBehind 0 do
    carryOutAll call fuel false
    if (← get).program.rules.any Rule.needsRecords then applyToAll call fuel
  let status ← statusBehind status (carryOutAll call fuel true)
  endSinks call
  return status

/-- Runs a program with some variables set before, and gives the status. -/
def runWhole (call : Call) (fuel : Nat) (settings : List (List Char)) : Act Nat := do
  let result ← attempt do
    settings.forM fun setting => do
      let _ ← assignOperand setting
    runRules call fuel
  match result with
  | .ok status => return status
  | .error (.stop status) =>
    endSinks call
    return status
  | .error _ => return 0

end Act
end TestCoverage.Awk
