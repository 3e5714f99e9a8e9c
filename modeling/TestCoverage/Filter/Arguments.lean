/-
  TestCoverage.Filter.Arguments

  Arguments told apart into options and operands.

  An option is a letter behind a dash, alone or with others, or a name behind two dashes.
  Its value stands right behind it or is the next argument.  Two dashes alone end the
  options.
-/

namespace TestCoverage.Filter

/-- The options that a program knows. -/
structure Options where
  /-- letters of options without a value -/
  flags : List Char := []
  /-- letters of options with a value -/
  valued : List Char := []
  /-- letters of options that may have a value, right behind them -/
  optional : List Char := []
  /-- names and the letters that they stand for -/
  names : List (String × Char) := []
  /-- the first operand ends the options -/
  first : Bool := false

/-- What is wrong with arguments. -/
inductive Misuse where
  | unknown (letter : Char)
  | unnamed (argument : List Char)
  | missing (letter : Char)
  | missingNamed (name : String)
  | ambiguous (argument : List Char) (names : List String)
deriving DecidableEq, Repr

/-- Options with their values, in order, and operands. -/
structure Arguments where
  options : List (Char × List Char) := []
  operands : List (List Char) := []
deriving DecidableEq, Repr

/-- What is wrong, in words. -/
def Misuse.message : Misuse → List Char
  | unknown letter => "invalid option -- '".toList ++ [letter, '\u0027']
  | unnamed argument => "unrecognized option '".toList ++ argument ++ ['\u0027']
  | missing letter => "option requires an argument -- '".toList ++ [letter, '\u0027']
  | missingNamed name =>
    "option '--".toList ++ name.toList ++ "' requires an argument".toList
  | ambiguous argument names =>
    "option '".toList ++ argument ++ "' is ambiguous; possibilities:".toList
      ++ names.flatMap fun name => " '--".toList ++ name.toList ++ ['\u0027']

namespace Arguments

/-- The option has been given. -/
def has (arguments : Arguments) (letter : Char) : Bool :=
  arguments.options.any (·.1 == letter)

/-- The values that have been given for an option, in order. -/
def values (arguments : Arguments) (letter : Char) : List (List Char) :=
  (arguments.options.filter (·.1 == letter)).map (·.2)

/-- The value that has been given last for an option. -/
def value? (arguments : Arguments) (letter : Char) : Option (List Char) :=
  (arguments.values letter).getLast?

/-- The last given one of some options. -/
def last? (arguments : Arguments) (letters : List Char) : Option Char :=
  ((arguments.options.filter fun (letter, _) => letter ∈ letters).map (·.1)).getLast?

/-- The arguments with more options before the others. -/
def behind (arguments : Arguments) (options : List (Char × List Char)) : Arguments :=
  { arguments with options := options ++ arguments.options }

/-- The options that letters behind one dash write, and the letter of one whose value is
    still to come. -/
def ofLetters (known : Options) :
    List Char → Except Misuse (List (Char × List Char) × Option Char)
  | [] => .ok ([], none)
  | letter :: letters =>
    if letter ∈ known.flags then
      (ofLetters known letters).map fun (options, waiting) =>
        ((letter, []) :: options, waiting)
    else if letter ∈ known.valued then
      .ok (if letters.isEmpty then ([], some letter) else ([(letter, letters)], none))
    else if letter ∈ known.optional then .ok ([(letter, letters)], none)
    else .error (.unknown letter)

/-- The known name that a text stands for: the name itself, or the beginning of names for one
    letter only. -/
def fullName (known : Options) (argument name : List Char) : Except Misuse (String × Char) :=
  match known.names.find? (·.1 = String.ofList name) with
  | some found => .ok found
  | none =>
    match known.names.filter fun (full, _) => name.isPrefixOf full.toList with
    | [] => .error (.unnamed argument)
    | first :: others =>
      if others.all (·.2 = first.2) then .ok first
      else .error (.ambiguous argument ((first :: others).map (·.1)))

/-- The option that a name writes, or the letter of one whose value is still to come. -/
def ofName (known : Options) (argument : List Char) :
    Except Misuse (List (Char × List Char) × Option Char) := do
  let name := (argument.drop 2).takeWhile (· ≠ '=')
  let (_, letter) ← fullName known argument name
  match argument.drop (name.length + 2) with
  | '=' :: value => return ([(letter, value)], none)
  | _ => return if letter ∈ known.valued then ([], some letter) else ([(letter, [])], none)

/-- Options and operands. -/
def parse (known : Options) : List (List Char) → Except Misuse Arguments
  | [] => .ok {}
  | argument :: rest =>
    match argument with
    | ['-', '-'] => .ok { operands := rest }
    | '-' :: letter :: letters => do
      let (options, waiting) ←
        if letter = '-' then ofName known argument else ofLetters known (letter :: letters)
      match waiting, rest with
      | none, rest => return (← parse known rest).behind options
      | some letter, value :: rest =>
        return (← parse known rest).behind (options ++ [(letter, value)])
      | some missing, [] =>
        if letter = '-' then
          throw (.missingNamed (← fullName known argument (argument.drop 2)).1)
        else throw (.missing missing)
    | _ =>
      if known.first then .ok { operands := argument :: rest }
      else do
        let others ← parse known rest
        return { others with operands := argument :: others.operands }

example : (parse { flags := ['r'], valued := ['k'] }
      ["-rk2".toList, "a".toList, "-k".toList, "3".toList]).toOption =
    some { options := [('r', []), ('k', ['2']), ('k', ['3'])], operands := [['a']] } := by
  decide +kernel
example : (parse { valued := ['n'], names := [("lines", 'n')] }
      ["--lines=4".toList]).toOption = some { options := [('n', ['4'])] } := by decide +kernel

end Arguments
end TestCoverage.Filter
