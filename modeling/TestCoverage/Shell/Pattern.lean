/-
  TestCoverage.Shell.Pattern

  Patterns for whole texts: a star stands for any text, a question mark for any character,
  and brackets for one of the characters in them.
-/
import TestCoverage.Text.CharSet

namespace TestCoverage.Shell

/-- A part of a pattern. -/
inductive Pattern where
  | exactly (c : Char)
  | any
  | many
  | oneOf (set : CharSet)
deriving DecidableEq, Repr

/-- A character and whether it has its special meaning. -/
abbrev Marked := Char × Bool

namespace Pattern

/-- The class that a text names between colons and brackets, and what stands behind it. -/
def class? (text : List Marked) : Option (List (Char × Char) × List Marked) :=
  match text with
  | ('[', true) :: (':', _) :: rest =>
    let name := rest.takeWhile (·.1 ≠ ':')
    match CharSet.named? (String.ofList (name.map (·.1))), rest.drop name.length with
    | some ranges, (':', _) :: (']', true) :: rest => some (ranges, rest)
    | _, _ => none
  | _ => none

/-- The ranges in brackets and what stands behind them.  A closing bracket that comes first
    is one of the characters.  The bound is the length of the text. -/
def ranges? : Nat → Bool → List Marked → Option (List (Char × Char) × List Marked)
  | 0, _, _ | _, _, [] => none
  | bound + 1, isFirst, (a, active) :: rest =>
    if a = ']' ∧ active ∧ ¬ isFirst then some ([], rest)
    else
      match class? ((a, active) :: rest) with
      | some (named, rest) =>
        (ranges? bound false rest).map fun (ranges, rest) => (named ++ ranges, rest)
      | none =>
        match rest with
        | ('-', true) :: (b, hasRange) :: behind =>
          if b = ']' ∧ hasRange then some ([(a, a), ('-', '-')], behind)
          else (ranges? bound false behind).map fun (ranges, rest) => ((a, b) :: ranges, rest)
        | _ => (ranges? bound false rest).map fun (ranges, rest) => ((a, a) :: ranges, rest)

/-- The parts of a pattern.  There are no more of them than the bound. -/
def parse (bound : Nat) (text : List Marked) : List Pattern :=
  match bound, text with
  | 0, _ | _, [] => []
  | bound + 1, (c, active) :: rest =>
    if !active then .exactly c :: parse bound rest
    else if c = '*' then .many :: parse bound rest
    else if c = '?' then .any :: parse bound rest
    else if c = '[' then
      let (negated, inside) := match rest with
        | ('!', true) :: inside => (true, inside)
        | inside => (false, inside)
      match ranges? inside.length true inside with
      | some (ranges, rest) => .oneOf { negated, ranges } :: parse bound rest
      | none => .exactly c :: parse bound rest
    else .exactly c :: parse bound rest

/-- The parts of a pattern. -/
def ofMarked (text : List Marked) : List Pattern :=
  parse text.length text

/-- The ends of a text, the longest first. -/
def suffixes {α : Type} : List α → List (List α)
  | [] => [[]]
  | c :: rest => (c :: rest) :: suffixes rest

/-- The part stands for the character. -/
def accepts : Pattern → Char → Bool
  | exactly c, d => c == d
  | any, _ => true
  | many, _ => true
  | oneOf set, d => set.accepts false d

/-- The pattern stands for the whole text. -/
def isMatch : List Pattern → List Char → Bool
  | [], text => text.isEmpty
  | many :: rest, text => (suffixes text).any (isMatch rest)
  | _ :: _, [] => false
  | part :: rest, c :: text => part.accepts c && isMatch rest text

/-- The pattern has a part that can stand for several texts. -/
def isSpecial (pattern : List Pattern) : Bool :=
  pattern.any fun part => match part with
    | exactly _ => false
    | _ => true

/-! ## Cutting -/

/-- The lengths up to the given one, from the side that is wanted. -/
def lengths (longest : Bool) (length : Nat) : List Nat :=
  let lengths := List.range (length + 1)
  if longest then lengths.reverse else lengths

/-- The text without a beginning that matches. -/
def dropStart (pattern : List Pattern) (longest : Bool) (text : List Char) : List Char :=
  match (lengths longest text.length).find? fun n => isMatch pattern (text.take n) with
  | some n => text.drop n
  | none => text

/-- The text without an end that matches. -/
def dropEnd (pattern : List Pattern) (longest : Bool) (text : List Char) : List Char :=
  match (lengths longest text.length).find? fun n =>
      isMatch pattern (text.drop (text.length - n)) with
  | some n => text.take (text.length - n)
  | none => text

/-- The characters of a text.  One behind a backslash has no special meaning. -/
def escapedMarks : List Char → List Marked
  | '\\' :: c :: rest => (c, false) :: escapedMarks rest
  | c :: rest => (c, true) :: escapedMarks rest
  | [] => []

/-- A text in which stars, question marks and brackets are special, but not behind a
    backslash. -/
def ofEscaped (text : List Char) : List Pattern :=
  ofMarked (escapedMarks text)

end Pattern
end TestCoverage.Shell
