/-
  TestCoverage.Awk.Token

  The words and signs of programs that work on records and their fields.

  A slash begins a pattern where an operand has to come, and divides everywhere else.
-/
import TestCoverage.Decimal.Reading
import TestCoverage.Shell.Format

namespace TestCoverage.Awk

/-- A word or a sign of a program. -/
inductive Token where
  | number (value : Binary64)
  | text (text : List Char)
  | pattern (source : List Char)
  | name (name : String)
  /-- a name with an opening parenthesis right behind it -/
  | called (name : String)
  /-- the name of a function that is always there -/
  | builtIn (name : String)
  | word (word : String)
  | sign (sign : String)
  | lineEnd
deriving DecidableEq, Repr

/-- The token can end an operand, so that a slash behind it divides. -/
def Token.endsOperand : Token → Bool
  | number _ | text _ | pattern _ | name _ | builtIn _ => true
  | sign s => [")", "]", "++", "--", "$"].contains s
  | _ => false

/-- The token as complaints show it. -/
def Token.shown : Token → List Char
  | number x => x.plain
  | text s => '"' :: s ++ ['"']
  | pattern s => '/' :: s ++ ['/']
  | name s | called s | builtIn s | word s | sign s => s.toList
  | lineEnd => "end of line".toList

/-- Why a program cannot be read, with the line. -/
structure Misprint where
  line : Nat
  message : List Char
deriving Repr

namespace Tokens

/-- The words of the language. -/
def words : List String := [
  "BEGIN", "END", "function", "if", "else", "while", "for", "do", "break", "continue", "next",
  "nextfile", "exit", "return", "delete", "in", "getline", "print", "printf"]

/-- The functions that are always there. -/
def functions : List String := [
  "length", "substr", "index", "split", "sub", "gsub", "match", "sprintf", "sin", "cos",
  "atan2", "exp", "log", "sqrt", "int", "rand", "srand", "tolower", "toupper", "system",
  "close", "fflush"]

/-- The signs of the language, longer ones first. -/
def signs : List String := [
  "&&", "||", "++", "--", "+=", "-=", "*=", "/=", "%=", "^=", "==", "<=", ">=", "!=", "!~",
  ">>", "\x7b", "\x7d", "(", ")", "[", "]", ";", ",", "+", "-", "*", "/", "%", "^", "!", "<",
  ">", "|", "?", ":", "~", "$", "="]

/-- The character can begin a name. -/
def isNameStart (c : Char) : Bool :=
  c.isAlpha || c == '_'

/-- The token of a word, with what stands behind it. -/
def ofWord (word : List Char) (rest : List Char) : Token :=
  let text := String.ofList word
  if words.contains text then .word text
  else if functions.contains text then .builtIn text
  else if rest.head? = some '(' then .called text
  else .name text

/-! ## Texts and patterns -/

/-- What an escape in a text stands for, behind its backslash, and what stands behind it. -/
def escaped (text : List Char) : List Char × List Char :=
  match text with
  | '"' :: rest => (['"'], rest)
  | '/' :: rest => (['\\', '/'], rest)
  | '\n' :: rest => ([], rest)
  | 'e' :: rest => (['\\', 'e'], rest)
  | _ =>
    let (c, rest) := Shell.Format.escape .printf text
    ([c], rest)

/-- The text with its escapes replaced.  The bound is its length. -/
def unescaped : Nat → List Char → List Char
  | 0, text => text
  | bound + 1, '\\' :: rest =>
    let (meant, rest) := escaped rest
    meant ++ unescaped bound rest
  | bound + 1, c :: rest => c :: unescaped bound rest
  | _, [] => []

/-- A text up to its quote, with its escapes as they are, and what stands behind it.  The bound
    is the length of the text. -/
def quoted? : Nat → List Char → Option (List Char × List Char)
  | _, [] | 0, _ => none
  | bound + 1, c :: rest =>
    if c = '"' then some ([], rest)
    else if c = '\n' then none
    else match c, rest with
      | '\\', d :: rest =>
        (quoted? bound rest).map fun (text, rest) => ('\\' :: d :: text, rest)
      | _, _ => (quoted? bound rest).map fun (text, rest) => (c :: text, rest)

/-- A pattern up to the slash at its end, and what stands behind it.  A slash in brackets does
    not end it. -/
def patternUpTo? : Nat → Bool → List Char → Option (List Char × List Char)
  | _, _, [] | 0, _, _ => none
  | bound + 1, inBrackets, c :: rest =>
    if c = '\n' then none
    else if c = '/' ∧ ¬ inBrackets then some ([], rest)
    else match c, rest with
      | '\\', '/' :: rest =>
        (patternUpTo? bound inBrackets rest).map fun (text, rest) => ('/' :: text, rest)
      | '\\', d :: rest =>
        (patternUpTo? bound inBrackets rest).map fun (text, rest) =>
          ('\\' :: d :: text, rest)
      | '[', '^' :: ']' :: rest =>
        if inBrackets then
          (patternUpTo? bound inBrackets ('^' :: ']' :: rest)).map fun (text, rest) =>
            (c :: text, rest)
        else
          (patternUpTo? bound true rest).map fun (text, rest) =>
            ('[' :: '^' :: ']' :: text, rest)
      | '[', ']' :: rest =>
        if inBrackets then
          (patternUpTo? bound inBrackets (']' :: rest)).map fun (text, rest) =>
            (c :: text, rest)
        else (patternUpTo? bound true rest).map fun (text, rest) => ('[' :: ']' :: text, rest)
      | _, _ =>
        (patternUpTo? bound ((inBrackets || c == '[') && c != ']') rest).map
          fun (text, rest) => (c :: text, rest)

/-! ## Numbers -/

/-- The number at the beginning of a text, and what stands behind it. -/
def leadingNumber (text : List Char) : Binary64 × List Char :=
  let length := Decimal.leadingLength text
  ((Decimal.positive? (text.take length) false).getD (.zero false), text.drop length)

/-! ## All tokens -/

/-- Something begins at a text and does not end. -/
def runaway (line : Nat) (kind : String) (text : List Char) : Misprint :=
  ⟨line, "runaway ".toList ++ kind.toList ++ ' ' :: text.take 11 ++ " ...".toList⟩

/-- The tokens of a program, each with its line, behind a token that ends an operand or not.  The
    bound is more than the length of the text. -/
def all : Nat → Bool → Nat → List Char → Except Misprint (List (Token × Nat))
  | 0, _, _, _ => .ok []
  | _, _, _, [] => .ok []
  | bound + 1, operand, line, c :: rest =>
    let push (token : Token) (rest : List Char) : Except Misprint (List (Token × Nat)) :=
      (all bound token.endsOperand line rest).map ((token, line) :: ·)
    if c = '\n' then (all bound false (line + 1) rest).map ((.lineEnd, line) :: ·)
    else if c = ' ' ∨ c = '\t' ∨ c = '\r' then all bound operand line rest
    else if c = '#' then all bound operand line (rest.dropWhile (· ≠ '\n'))
    else if c = '\\' ∧ rest.head? = some '\n' then all bound operand (line + 1) rest.tail
    else if c = '\\' ∧ ['\r', '\n'].isPrefixOf rest then
      all bound operand (line + 1) (rest.drop 2)
    else if isNameStart c then
      let word := (c :: rest).takeWhile fun c => isNameStart c || c.isDigit
      let rest := (c :: rest).drop word.length
      push (ofWord word rest) rest
    else if c.isDigit ∨ (c = '.' ∧ rest.head?.any Char.isDigit) then
      let (value, rest) := leadingNumber (c :: rest)
      push (.number value) rest
    else if c = '"' then
      match quoted? (rest.length + 1) rest with
      | some (text, rest) => push (.text (unescaped text.length text)) rest
      | none => .error (runaway line "string constant" (c :: rest))
    else if c = '/' ∧ ¬ operand then
      match patternUpTo? (rest.length + 1) false rest with
      | some (source, rest) => push (.pattern source) rest
      | none => .error (runaway line "regular expression" (c :: rest))
    else
      match signs.find? fun sign => sign.toList.isPrefixOf (c :: rest) with
      | some sign => push (.sign sign) ((c :: rest).drop sign.length)
      | none => .error ⟨line, "unexpected character '".toList ++ [c, '\u0027']⟩

/-- The tokens of a program. -/
def ofText (text : List Char) : Except Misprint (List (Token × Nat)) :=
  all (text.length + 1) false 1 text

example : ((ofText "a /2/ 1".toList).toOption.map fun tokens => tokens.map (·.1)) =
    some [.name "a", .sign "/", .number (.ofNat 2), .sign "/", .number (.ofNat 1)] := by
  decide +kernel
example : ((ofText "!/a\\/b/".toList).toOption.map fun tokens => tokens.map (·.1)) =
    some [.sign "!", .pattern "a/b".toList] := by decide +kernel

end Tokens
end TestCoverage.Awk
