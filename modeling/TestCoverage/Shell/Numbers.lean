/-
  TestCoverage.Shell.Numbers

  Programs that write numbers at equal distances.
-/
import TestCoverage.Filter.Sequence
import TestCoverage.Shell.Filters

namespace TestCoverage.Shell

/-! ## Formats -/

/-- A text with one conversion of a number in it. -/
structure NumberFormat where
  before : List Char
  conversion : Format.Conversion
  kind : Char
  behind : List Char

namespace NumberFormat

open TestCoverage.Filter

/-- A text up to its first conversion, with what it stands for, and the text from there on.  A
    percent sign stands for itself if it is doubled. -/
def literal : List Char → List Char × List Char
  | [] => ([], [])
  | '%' :: '%' :: rest =>
    let (text, rest) := literal rest
    ('%' :: text, rest)
  | '%' :: rest => ([], '%' :: rest)
  | c :: rest =>
    let (text, rest) := literal rest
    (c :: text, rest)

/-- The format that a text writes, or what is wrong with it. -/
def ofText (text : List Char) : Except String NumberFormat :=
  match literal text with
  | (_, []) => .error "has no % directive"
  | (before, rest) =>
    let (conversion, rest) := Format.readFlags (rest.drop 1) {}
    let width := rest.takeWhile Char.isDigit
    let rest := rest.drop width.length
    let (precision, rest) := match rest with
      | '.' :: rest =>
        let digits := rest.takeWhile Char.isDigit
        (some (Decimal.natural 0 digits), rest.drop digits.length)
      | _ => (none, rest)
    let rest := match rest with
      | 'L' :: rest => rest
      | _ => rest
    match rest with
    | [] => .error "ends in %"
    | kind :: rest =>
      if ¬ "efgEFG".toList.contains kind then
        .error (String.ofList ("has unknown %".toList ++ kind :: " directive".toList))
      else match literal rest with
        | (behind, []) =>
          let conversion := { conversion with width := Decimal.natural 0 width, precision }
          .ok { before, conversion, kind, behind }
        | _ => .error "has too many % directives"

/-- A number in a format. -/
def write (format : NumberFormat) (x : Fixed) : List Char :=
  format.before
    ++ format.conversion.ofRatio format.kind (x.digits < 0) x.digits.natAbs
      (Decimal.tenTo x.places)
    ++ format.behind

end NumberFormat

namespace Utility

open Run TestCoverage.Filter

/-! ## Equal distances -/

/-- The options of `seq`. -/
def seqOptions : Options where
  flags := ['w']
  valued := ['s', 'f']
  names := [("equal-width", 'w'), ("format", 'f'), ("separator", 's')]
  first := true

/-- The letters or the name of an option have their value in the next argument. -/
def needsValue (known : Options) (option : List Char) : Bool :=
  match option with
  | '-' :: name =>
    !name.contains '=' && (known.names.any fun (full, letter) =>
      known.valued.contains letter && name.isPrefixOf full.toList)
  | letters =>
    match letters.dropWhile (known.flags.contains ·) with
    | [letter] => known.valued.contains letter
    | _ => false

/-- The arguments with a mark before the first that is a number below zero, so that it is not
    taken for an option. -/
def withMarkedNumbers (known : Options) : List (List Char) → List (List Char)
  | ('-' :: c :: letters) :: rest =>
    if c = '.' ∨ c.isDigit then ['-', '-'] :: ('-' :: c :: letters) :: rest
    else if c = '-' ∧ letters.isEmpty then ['-', '-'] :: rest
    else match rest with
      | value :: others =>
        if needsValue known (c :: letters) then
          ('-' :: c :: letters) :: value :: withMarkedNumbers known others
        else ('-' :: c :: letters) :: withMarkedNumbers known (value :: others)
      | [] => ['-' :: c :: letters]
  | arguments => arguments

/-- A text that stands for a number above all others. -/
def isInfinity (text : List Char) : Bool :=
  let (below, letters) := Decimal.splitSign (text.map Char.toLower)
  !below && (letters == "inf".toList || letters == "infinity".toList)

/-- The numbers that operands ask for. -/
def rangeOf? (operands : List (List Char)) : Option NumberRange := do
  let others ← operands.dropLast.mapM Fixed.ofText?
  let (first, step) ← match others with
    | [] => some (⟨1, 0⟩, ⟨1, 0⟩)
    | [first] => some (first, ⟨1, 0⟩)
    | [first, step] => some (first, step)
    | _ => none
  let last ← match operands.getLast? with
    | none => none
    | some text =>
      if isInfinity text then
        let places := max first.places step.places
        some ⟨first.scaled places + step.scaled places * (endlessLength / 2 : Nat), places⟩
      else Fixed.ofText? text
  return { first, step, last }

/-- Writes numbers at equal distances. -/
def seq : Utility := fun arguments =>
  withOptions "seq" 1 seqOptions (fun arguments => do
    let operands := arguments.operands
    if operands.isEmpty then misused "seq" 1 "missing operand".toList
    else if let some extra := operands[3]? then
      misused "seq" 1 ("extra operand ".toList ++ inQuotes extra)
    else match (arguments.value? 'f').map fun text => (text, NumberFormat.ofText text) with
    | some (text, .error fault) => do
      object "seq" ("format ".toList ++ inQuotes text ++ ' ' :: fault.toList)
      return 1
    | format =>
      if format.isSome ∧ arguments.has 'w' then
        misused "seq" 1
          "format string may not be specified when printing equal width strings".toList
      else match operands.find? fun text => (Fixed.ofText? text).isNone && !isInfinity text with
      | some text =>
        if text.map Char.toLower = "nan".toList then
          misused "seq" 1 ("invalid 'not-a-number' argument: ".toList ++ inQuotes text)
        else misused "seq" 1 ("invalid floating point argument: ".toList ++ inQuotes text)
      | none =>
        match rangeOf? operands with
        | none => return 0
        | some range =>
          if range.step.digits = 0 then
            misused "seq" 1 ("invalid Zero increment value: ".toList
              ++ inQuotes (operands.getD 1 []))
          else do
            let texts := match format with
              | some (_, .ok format) => range.values.map format.write
              | _ => if arguments.has 'w' then range.paddedTexts else range.texts
            let separator := (arguments.value? 's').getD ['\n']
            if ¬ texts.isEmpty then write 1 (separator.intercalate texts ++ ['\n'])
            if operands.getLast?.any isInfinity then throw (.killed 13)
            return 0) (withMarkedNumbers seqOptions arguments)

end Utility
end TestCoverage.Shell
