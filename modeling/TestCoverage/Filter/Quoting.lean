/-
  TestCoverage.Filter.Quoting

  How complaints show an argument or the name of a file.

  An argument stands in single quotes, and what could be mistaken in it has a backslash in
  front.  A name is written as a shell would read it back: with quotes only where a character
  of it means something there, or in any case.
-/

namespace TestCoverage.Filter.Quoting

/-- The letter that stands for a control character behind a backslash. -/
def letter? (c : Char) : Option Char :=
  match c.toNat with
  | 7 => some 'a'
  | 8 => some 'b'
  | 9 => some 't'
  | 10 => some 'n'
  | 11 => some 'v'
  | 12 => some 'f'
  | 13 => some 'r'
  | _ => none

/-- The character is shown as itself. -/
def isPrintable (c : Char) : Bool :=
  0x20 ≤ c.toNat && c.toNat < 0x7F

/-- What stands for a character behind a backslash: a letter, or three octal digits. -/
def escape (c : Char) : List Char :=
  '\\' :: match letter? c with
    | some letter => [letter]
    | none =>
      [c.toNat / 64, c.toNat / 8 % 8, c.toNat % 8].map Nat.digitChar

/-! ## Arguments -/

/-- A character of an argument. -/
def inArgument (c : Char) : List Char :=
  if c = '\\' ∨ c = '\u0027' then ['\\', c]
  else if isPrintable c then [c]
  else escape c

/-- An argument in single quotes. -/
def argument (text : List Char) : List Char :=
  '\u0027' :: text.flatMap inArgument ++ ['\u0027']

/-! ## Names -/

/-- The character means nothing to a shell, wherever it stands. -/
def isHarmless (c : Char) : Bool :=
  c.isAlphanum || "%+,-./:]_@".toList.contains c

/-- A name needs no quotes. -/
def isPlain (name : List Char) : Bool :=
  match name with
  | [] => false
  | [c] => isHarmless c
  | first :: rest =>
    let isBrace (c : Char) : Bool := c == '\x7b' || c == '\x7d'
    (isHarmless first || isBrace first)
      && rest.all fun c => isHarmless c || isBrace c || c == '#' || c == '~'

/-- A name is shown in double quotes: it has a single quote, and nothing that means something
    in double ones. -/
def fitsDoubleQuotes (name : List Char) : Bool :=
  let isQuiet (c : Char) : Bool := isHarmless c || c == ' ' || c == '\u0027'
  name.contains '\u0027' && match name with
    | [] => false
    | first :: rest => (isQuiet first || first == '#' || first == '~') && rest.all isQuiet

/-- The characters of a name behind an opening single quote.  What cannot be shown stands in
    quotes of its own, which are `open` or not. -/
def inName : Bool → List Char → List Char
  | _, [] => ['\u0027']
  | isOpen, c :: rest =>
    let close : List Char := if isOpen then ['\u0027', '\u0027'] else []
    if c = '\u0027' then "'\\''".toList ++ inName false rest
    else if isPrintable c then close ++ c :: inName false rest
    else (if isOpen then [] else "'$'".toList) ++ escape c ++ inName true rest

/-- A name in quotes. -/
def name (text : List Char) : List Char :=
  if fitsDoubleQuotes text then '"' :: text ++ ['"']
  else '\u0027' :: inName false text

/-- A name in front of a colon, in quotes if it needs them. -/
def nameIfOdd (text : List Char) : List Char :=
  if isPlain text && !text.contains ':' then text else name text

example : name "a\tb".toList = "'a'$'\\t''b'".toList := by decide +kernel
example : nameIfOdd "a'b".toList = "\"a'b\"".toList := by decide +kernel
example : argument "a'b".toList = "'a\\'b'".toList := by decide +kernel

end TestCoverage.Filter.Quoting
