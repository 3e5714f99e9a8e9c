/-
  TestCoverage.Filter.Exchange

  Text whose characters are replaced, left out, or not repeated.
-/
import TestCoverage.Filter.Regex

namespace TestCoverage.Filter

/-! ## Descriptions of characters -/

/-- A part of a description: characters, or one character so many times; no times at all
    stands for as many as are needed. -/
inductive CharPart where
  | each (chars : List Char)
  | times (c : Char) (count : Nat)
deriving DecidableEq, Repr

/-- What a letter behind a backslash stands for. -/
def controlLetter (c : Char) : Char :=
  match c with
  | 'a' => '\x07'
  | 'b' => '\x08'
  | 'f' => '\x0c'
  | 'n' => '\n'
  | 'r' => '\r'
  | 't' => '\t'
  | 'v' => '\x0b'
  | _ => c

/-- An octal digit. -/
def isOctal (c : Char) : Bool :=
  '0' ≤ c && c ≤ '7'

/-- The number that octal digits write. -/
def octal (digits : List Char) : Nat :=
  digits.foldl (fun n c => n * 8 + (c.toNat - '0'.toNat)) 0

/-- The characters of a description, and whether a backslash has made each what it is.  The
    bound is the length of the text. -/
def unescaped : Nat → List Char → List (Char × Bool)
  | 0, _ | _, [] => []
  | bound + 1, '\\' :: c :: rest =>
    if isOctal c then
      let digits := ((c :: rest).take 3).takeWhile isOctal
      (Char.ofNat (octal digits % 256), true) :: unescaped bound ((c :: rest).drop digits.length)
    else (controlLetter c, true) :: unescaped bound rest
  | bound + 1, c :: rest => (c, false) :: unescaped bound rest

/-- The characters from one to another. -/
def charsBetween (low high : Char) : List Char :=
  (List.range (high.toNat + 1 - low.toNat)).map fun i => Char.ofNat (low.toNat + i)

/-- The part that stands in brackets at the beginning, and the text behind it. -/
def bracketPart? (text : List (Char × Bool)) : Option (CharPart × List (Char × Bool)) :=
  match text with
  | ('[', false) :: (':', false) :: rest =>
    let name := rest.takeWhile (· ≠ (':', false))
    match CharSet.named? (String.ofList (name.map (·.1))), rest.drop name.length with
    | some ranges, _ :: (']', false) :: rest =>
      some (.each (ranges.flatMap fun (low, high) => charsBetween low high), rest)
    | _, _ => none
  | ('[', false) :: ('=', false) :: (c, _) :: ('=', false) :: (']', false) :: rest =>
    some (.each [c], rest)
  | ('[', false) :: (c, _) :: ('*', false) :: rest =>
    let digits := (rest.map (·.1)).takeWhile Char.isDigit
    match rest.drop digits.length with
    | (']', false) :: rest =>
      let count :=
        if digits.head? = some '0' then octal digits
        else digits.foldl (fun n c => n * 10 + (c.toNat - '0'.toNat)) 0
      some (.times c count, rest)
    | _ => none
  | _ => none

/-- The parts of a description; nothing if a range in it goes backwards.  The bound is the
    length of the text. -/
def charParts? : Nat → List (Char × Bool) → Option (List CharPart)
  | 0, _ | _, [] => some []
  | bound + 1, (c, plain) :: rest =>
    match bracketPart? ((c, plain) :: rest) with
    | some (part, rest) => (charParts? bound rest).map (part :: ·)
    | none =>
      match rest with
      | ('-', false) :: (d, _) :: behind =>
        if c ≤ d then (charParts? bound behind).map (.each (charsBetween c d) :: ·) else none
      | _ => (charParts? bound rest).map (.each [c] :: ·)

/-- The characters of parts, brought to a length by what may be repeated as often as
    needed. -/
def expandParts (length : Nat) (parts : List CharPart) : List Char :=
  let fixed := parts.foldl (fun n part =>
    match part with
    | .each chars => n + chars.length
    | .times _ count => n + count) 0
  parts.flatMap fun part =>
    match part with
    | .each chars => chars
    | .times c count => List.replicate (if count = 0 then length - fixed else count) c

/-- The characters that a text describes, brought to a length if that is possible. -/
def charsOf? (length : Nat) (text : List Char) : Option (List Char) :=
  let marked := unescaped text.length text
  (charParts? marked.length marked).map (expandParts length)

/-! ## Replacing -/

/-- All other characters, in order. -/
def complement (chars : List Char) : List Char :=
  (charsBetween '\x00' '\u00ff').filter (· ∉ chars)

/-- Characters one by one for new ones.  If there are too few new ones, the last one is used
    for the rest. -/
def exchanged (old new : List Char) (c : Char) : Char :=
  let filled := new ++ List.replicate (old.length - new.length) ((new.getLast?).getD c)
  match ((old.zip filled).reverse.find? (·.1 = c)) with
  | some (_, other) => other
  | none => c

/-- The text with each character replaced.  There is one replacement for each of the 256
    characters. -/
def exchange (old new : List Char) (text : List Char) : List Char :=
  let table := ((charsBetween '\x00' '\u00ff').map (exchanged old new)).toArray
  text.map fun c => table.getD c.toNat c

/-- The text without the characters. -/
def delete (chars : List Char) (text : List Char) : List Char :=
  text.filter (· ∉ chars)

/-- The text with each of the characters only once where it stands several times in a row. -/
def squeeze (chars : List Char) (text : List Char) : List Char :=
  (text.foldl (fun (kept : List Char) c =>
    if kept.head? = some c ∧ c ∈ chars then kept else c :: kept) []).reverse

example : (charsOf? 0 "a-c\\n[:digit:]".toList) = some "abc\n0123456789".toList := by
  decide +kernel
example : (charsOf? 5 "x[y*]".toList) = some "xyyyy".toList := by decide +kernel
example : charsOf? 0 "z-a".toList = none := by decide +kernel
example : exchange "ab".toList "x".toList "cab".toList = "cxx".toList := by decide +kernel
example : squeeze [' '] "a  b".toList = "a b".toList := by decide +kernel

end TestCoverage.Filter
