/-
  TestCoverage.Shell.Format

  Text made from a format and arguments, with backslash escapes in both.
-/
import TestCoverage.Decimal.Places
import TestCoverage.Decimal.Reading
import TestCoverage.Shell.Arithmetic
import TestCoverage.Text.Hex

namespace TestCoverage.Shell.Format

/-! ## Escapes -/

/-- Characters that a letter behind a backslash stands for. -/
def letters : List (Char × Char) := [
  ('a', '\x07'), ('b', '\x08'), ('e', '\x1b'), ('f', '\x0c'), ('n', '\n'), ('r', '\r'),
  ('t', '\t'), ('v', '\x0b'), ('\\', '\\')]

/-- The character is an octal digit. -/
def isOctal (c : Char) : Bool :=
  '0' ≤ c && c ≤ '7'

/-- The byte that octal digits write. -/
def ofOctal (digits : List Char) : Char :=
  Char.ofNat (Expression.ofDigits 8 digits % 256)

/-- Which escapes are known: those of the shell, or those of a program of its own. -/
inductive Escapes where
  | shell
  | echo
  | printf
deriving DecidableEq, Repr

/-- What an escape stands for, behind its backslash, and the text behind it.  An unknown one
    stands for itself. -/
def escape (escapes : Escapes) (text : List Char) : Char × List Char :=
  match text with
  | [] => ('\\', [])
  | c :: rest =>
    match letters.find? (·.1 = c) with
    | some (_, meant) => (meant, rest)
    | none =>
      let hex := (rest.take 2).takeWhile fun c => (Text.hexDigit? c).isSome
      if isOctal c then
        let digits := (text.take 3).takeWhile isOctal
        (ofOctal digits, text.drop digits.length)
      else if c = 'x' ∧ escapes ≠ .shell ∧ ¬ hex.isEmpty then
        (Char.ofNat (Expression.ofDigits 16 hex), rest.drop hex.length)
      else if c = '"' ∧ escapes = .printf then ('"', rest)
      else ('\\', text)

/-- A text with its escapes replaced, and whether one of them ends all output.  Octal digits
    may have a further zero before them.  The bound is the length of the text. -/
def unescape (escapes : Escapes) : Nat → List Char → List Char × Bool
  | 0, _ | _, [] => ([], false)
  | bound + 1, '\\' :: rest =>
    match rest with
    | 'c' :: _ => ([], true)
    | '0' :: digits =>
      let octal := (digits.take 3).takeWhile isOctal
      let (text, ends) := unescape escapes bound (digits.drop octal.length)
      (ofOctal octal :: text, ends)
    | _ =>
      let (c, rest) := escape escapes rest
      let (text, ends) := unescape escapes bound rest
      (c :: text, ends)
  | bound + 1, c :: rest =>
    let (text, ends) := unescape escapes bound rest
    (c :: text, ends)

/-! ## Arguments as they are -/

/-- The text of arguments: spaces between them and a line end behind them, if it is to be
    there.  If some escapes are known, they are replaced. -/
def joined (escapes : Option Escapes) (lineEnd : Bool) (arguments : List (List Char)) :
    List Char :=
  let text := [' '].intercalate arguments
  let ending := if lineEnd then ['\n'] else []
  match escapes.map fun known => unescape known text.length text with
  | some (text, true) => text
  | some (text, false) => text ++ ending
  | none => text ++ ending

/-- What the command of the shell writes for its arguments.  The line end is left out if the
    first of them is `-n`. -/
def shellEcho (arguments : List (List Char)) : List Char :=
  match arguments with
  | ['-', 'n'] :: rest => joined (some .shell) false rest
  | _ => joined (some .shell) true arguments

/-- The argument has nothing but letters of options. -/
def isEchoOption : List Char → Bool
  | '-' :: letters => !letters.isEmpty && letters.all fun c => c == 'e' || c == 'E' || c == 'n'
  | _ => false

/-- What the program writes for its arguments.  Letters in the first of them leave the line end
    out, and say whether escapes are replaced. -/
def programEcho (arguments : List (List Char)) : List Char :=
  let letters := (arguments.takeWhile isEchoOption).flatten
  let replaces := (letters.reverse.find? fun c => c == 'e' || c == 'E') == some 'e'
  joined (if replaces then some .echo else none) (!letters.contains 'n')
    (arguments.dropWhile isEchoOption)

/-! ## Conversions -/

/-- How an argument is written. -/
structure Conversion where
  left : Bool := false
  plus : Bool := false
  space : Bool := false
  alternate : Bool := false
  zero : Bool := false
  width : Nat := 0
  precision : Option Nat := none
deriving DecidableEq, Repr

/-- The conversion with one more flag, if the character is one. -/
def Conversion.withFlag? (conversion : Conversion) : Char → Option Conversion
  | '-' => some { conversion with left := true }
  | '+' => some { conversion with plus := true }
  | ' ' => some { conversion with space := true }
  | '#' => some { conversion with alternate := true }
  | '0' => some { conversion with zero := true }
  | _ => none

/-- Reads flags. -/
def readFlags : List Char → Conversion → Conversion × List Char
  | [], conversion => (conversion, [])
  | c :: rest, conversion =>
    match conversion.withFlag? c with
    | some conversion => readFlags rest conversion
    | none => (conversion, c :: rest)

/-! ## Numbers in arguments -/

/-- What is wrong with an argument or a format. -/
inductive Mistake where
  | noNumber (argument : List Char)
  | moreThanNumber (argument : List Char)
  | range (argument : List Char)
  | unknown (conversion : List Char)
  | missing
deriving DecidableEq, Repr

/-- The mistake in words. -/
def Mistake.message : Mistake → List Char
  | noNumber argument => argument ++ ": expected numeric value".toList
  | moreThanNumber argument => argument ++ ": not completely converted".toList
  | range argument => argument ++ ": Numerical result out of range".toList
  | unknown conversion => conversion ++ ": invalid directive".toList
  | missing => "missing format character".toList

/-- Nothing is written behind the mistake. -/
def Mistake.ends : Mistake → Bool
  | unknown _ | missing => true
  | _ => false

/-- The character whose number an argument stands for: the one behind a quote. -/
def quotedChar? (argument : List Char) : Option Nat :=
  match argument with
  | c :: rest => if c = '"' ∨ c = '\u0027' then some ((rest.head?.map Char.toNat).getD 0) else none
  | [] => none

/-- A number that has been read, and what is wrong with its argument. -/
def judged {α : Type} (argument : List Char) (value : α) (rest? : Option (List Char))
    (fits : Bool) : α × Option Mistake :=
  (value, match rest? with
    | none => if argument.isEmpty then none else some (.noNumber argument)
    | some [] => if fits then none else some (.range argument)
    | some _ => some (.moreThanNumber argument))

/-- The integer that an argument writes, with or without a sign as it is wanted, and what is
    wrong with the argument. -/
def integerOf (signed : Bool) (argument : List Char) : Int × Option Mistake :=
  match quotedChar? argument with
  | some n => (n, none)
  | none =>
    let (below, text) := Decimal.splitSign (argument.dropWhile Char.isWhitespace)
    let (base, digits, rest) := Expression.leadingDigits text
    if digits.isEmpty then judged argument 0 none true
    else
      let n : Int := Expression.ofDigits base digits
      let n := if below then -n else n
      let (low, high) : Int × Int :=
        if signed then (-9223372036854775808, 9223372036854775807)
        else (-18446744073709551615, 18446744073709551615)
      if low ≤ n ∧ n ≤ high then judged argument n (some rest) true
      else judged argument (if n < 0 ∧ signed then low else high) (some rest) false

/-- The double that an argument writes, and what is wrong with the argument. -/
def doubleOf (argument : List Char) : Binary64 × Option Mistake :=
  match quotedChar? argument with
  | some n => (.ofNat n, none)
  | none =>
    let text := argument.dropWhile Char.isWhitespace
    match Decimal.float? text with
    | some x => (x, none)
    | none =>
      let (below, digits) := Decimal.splitSign text
      let length := Decimal.leadingLength digits
      match Decimal.positive? (digits.take length) below with
      | some x => judged argument x (some (digits.drop length)) true
      | none => judged argument (.zero below) none true

/-! ## Reading conversions -/

/-- Reads a number in a format: digits, or a star for an argument. -/
def readNumber (format : List Char) (arguments : List (List Char)) :
    Int × List Char × List (List Char) :=
  match format with
  | '*' :: rest => ((integerOf true (arguments.headD [])).1, rest, arguments.tail)
  | _ =>
    let digits := format.takeWhile Char.isDigit
    (Expression.ofDigits 10 digits, format.drop digits.length, arguments)

/-- Reads the flags, the width and the precision of a conversion. -/
def readConversion (format : List Char) (arguments : List (List Char)) :
    Conversion × List Char × List (List Char) :=
  let (conversion, format) := readFlags format {}
  let (width, format, arguments) := readNumber format arguments
  let conversion :=
    { conversion with width := width.natAbs, left := conversion.left || width < 0 }
  match format with
  | '.' :: format =>
    let (precision, format, arguments) := readNumber format arguments
    let precision := if precision < 0 then none else some precision.toNat
    ({ conversion with precision }, format, arguments)
  | _ => (conversion, format, arguments)

/-- A text brought to the width. -/
def Conversion.pad (conversion : Conversion) (text : List Char) : List Char :=
  let gap := List.replicate (conversion.width - text.length) ' '
  if conversion.left then text ++ gap else gap ++ text

/-- A text cut at the precision and brought to the width. -/
def Conversion.ofText (conversion : Conversion) (text : List Char) : List Char :=
  conversion.pad (match conversion.precision with
    | some n => text.take n
    | none => text)

/-- Digits with a sign or a mark before them, brought to the precision and the width. -/
def Conversion.ofDigits (conversion : Conversion) (mark digits : List Char) : List Char :=
  match conversion.precision with
  | some n => conversion.pad (mark ++ List.replicate (n - digits.length) '0' ++ digits)
  | none =>
    if conversion.zero ∧ ¬ conversion.left then
      mark ++ List.replicate (conversion.width - (mark.length + digits.length)) '0' ++ digits
    else conversion.pad (mark ++ digits)

/-- A number with its sign. -/
def Conversion.ofSigned (conversion : Conversion) (n : Int) : List Char :=
  let mark :=
    if n < 0 then ['-'] else if conversion.plus then ['+']
    else if conversion.space then [' '] else []
  conversion.ofDigits mark (Nat.toDigits 10 n.natAbs)

/-- A number without a sign, in a base. -/
def Conversion.ofUnsigned (conversion : Conversion) (base : Nat) (mark : List Char)
    (upper : Bool) (n : Int) : List Char :=
  let digits := Nat.toDigits base (Operation.bits n).toNat
  conversion.ofDigits (if conversion.alternate ∧ n ≠ 0 then mark else [])
    (if upper then digits.map Char.toUpper else digits)

/-- A double in the form that a letter stands for, without its sign. -/
def Conversion.magnitude (conversion : Conversion) (kind : Char) (num den : Nat) : List Char :=
  let places := conversion.precision.getD 6
  if kind = 'f' then Decimal.fixedPlaces conversion.alternate places num den
  else if kind = 'e' then Decimal.scientificPlaces conversion.alternate places num den
  else Decimal.generalPlaces conversion.alternate places num den

/-- The sign of a number that is below zero or not. -/
def Conversion.signOf (conversion : Conversion) (below : Bool) : List Char :=
  if below then ['-'] else if conversion.plus then ['+']
  else if conversion.space then [' '] else []

/-- A ratio, below zero or not, in the form that a letter stands for. -/
def Conversion.ofRatio (conversion : Conversion) (kind : Char) (below : Bool) (num den : Nat) :
    List Char :=
  let digits := conversion.magnitude kind.toLower num den
  { conversion with precision := none }.ofDigits (conversion.signOf below)
    (if kind.isUpper then digits.map Char.toUpper else digits)

/-- A double in the form that a letter stands for. -/
def Conversion.ofDouble (conversion : Conversion) (kind : Char) (x : Binary64) : List Char :=
  let cased (text : List Char) : List Char :=
    if kind.isUpper then text.map Char.toUpper else text
  match x with
  | .finite below significand exponent =>
    let (num, den) := Binary64.ratio significand exponent
    conversion.ofRatio kind below num den
  | .infinite below => conversion.pad (conversion.signOf below ++ cased "inf".toList)
  | .nan => conversion.pad (conversion.signOf false ++ cased "nan".toList)

/-! ## Writing -/

/-- What has been written so far. -/
structure Result where
  text : List Char := []
  mistakes : List Mistake := []
  /-- nothing more is written -/
  ends : Bool := false
  /-- the arguments that are left -/
  rest : List (List Char) := []
  /-- the format has taken arguments -/
  taken : Bool := false
deriving Repr

/-- The result with text before it. -/
def Result.behind (result : Result) (text : List Char) : Result :=
  { result with text := text ++ result.text }

/-- Writes one argument, or nothing if the kind of conversion is unknown: the text, what is
    wrong with the argument, and whether it ends all output. -/
def convert? (escapes : Escapes) (conversion : Conversion) (kind : Char)
    (argument : List Char) :
    Option (List Char × Option Mistake × Bool) :=
  let unsigned (base : Nat) (mark : List Char) (upper : Bool) :=
    let (n, mistake) := integerOf false argument
    some (conversion.ofUnsigned base mark upper n, mistake, false)
  match kind with
  | 's' => some (conversion.ofText argument, none, false)
  | 'c' => some (conversion.pad [argument.headD '\x00'], none, false)
  | 'b' =>
    let (text, ends) := unescape escapes argument.length argument
    some (conversion.ofText text, none, ends)
  | 'd' | 'i' =>
    let (n, mistake) := integerOf true argument
    some (conversion.ofSigned n, mistake, false)
  | 'u' => unsigned 10 [] false
  | 'o' => unsigned 8 ['0'] false
  | 'x' => unsigned 16 ['0', 'x'] false
  | 'X' => unsigned 16 ['0', 'X'] true
  | 'e' | 'E' | 'f' | 'F' | 'g' | 'G' =>
    let (x, mistake) := doubleOf argument
    some (conversion.ofDouble kind x, mistake, false)
  | _ => none

/-- Writes the arguments by the format once.  The bound is the length of the format. -/
def once (escapes : Escapes) : Nat → List Char → List (List Char) → Result
  | 0, _, rest | _, [], rest => { rest }
  | bound + 1, '\\' :: format, arguments =>
    if format.head? = some 'c' ∧ escapes = .printf then { ends := true, rest := arguments }
    else
      let (c, format) := escape escapes format
      (once escapes bound format arguments).behind [c]
  | bound + 1, '%' :: '%' :: format, arguments =>
    (once escapes bound format arguments).behind ['%']
  | bound + 1, '%' :: format, arguments =>
    let (conversion, behind, arguments) := readConversion format arguments
    match behind with
    | [] => { ends := true, mistakes := [.missing], rest := arguments }
    | kind :: rest =>
      let argument := arguments.headD []
      match convert? escapes conversion kind argument with
      | none =>
        let written := '%' :: format.take (format.length - rest.length)
        { ends := true, mistakes := [.unknown written], rest := arguments }
      | some (text, mistake, ends) =>
        let result : Result :=
          if ends then { ends, rest := arguments.tail }
          else once escapes bound rest arguments.tail
        { result.behind text with mistakes := mistake.toList ++ result.mistakes, taken := true }
  | bound + 1, c :: format, arguments => (once escapes bound format arguments).behind [c]

/-- Writes the arguments by the format, over and over until all are written.  The bound is
    more than their number. -/
def all (escapes : Escapes) : Nat → List Char → List (List Char) → Result
  | 0, _, _ => {}
  | bound + 1, format, arguments =>
    let first := once escapes format.length format arguments
    if first.ends ∨ first.rest.isEmpty ∨ ¬ first.taken then first
    else
      let others := all escapes bound format first.rest
      { others.behind first.text with mistakes := first.mistakes ++ others.mistakes }

/-- Writes the arguments by the format. -/
def write (escapes : Escapes) (format : List Char) (arguments : List (List Char)) : Result :=
  all escapes (arguments.length + 1) format arguments

example : (write .shell "%s\\n".toList ["a".toList, "b".toList]).text = "a\nb\n".toList := by
  decide +kernel
example : (write .shell "[%5.2s|%-4d|%03x]".toList ["abc".toList, "7".toList, "255".toList]).text =
    "[   ab|7   |0ff]".toList := by decide +kernel
example : (write .shell "%s|%s".toList ["a".toList]).text = "a|".toList := by decide +kernel
example : (write .shell "a\\303".toList []).text = ['a', '\u00c3'] := by decide +kernel
example : (write .shell "%08.3f".toList ["-2.5".toList]).text = "-002.500".toList := by
  decide +kernel
example : (write .shell "%d".toList ["1x".toList]).mistakes = [.moreThanNumber "1x".toList] := by
  decide +kernel
example : (write .printf "\\x41\\c".toList []).text = ['A'] := by decide +kernel
example : shellEcho ["a\\tb".toList, "\\0101\\c".toList] = "a\tb A".toList := by
  decide +kernel
example : programEcho ["-ne".toList, "\\x41\\q".toList] = "A\\q".toList := by decide +kernel

end TestCoverage.Shell.Format
