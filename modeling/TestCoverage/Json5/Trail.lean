/-
  TestCoverage.Json5.Trail

  What has been tried in vain at the farthest place of a text that was reached, so that an
  error can say what was expected there.

  A kind of value counts as tried where it begins.  If only one of its parts was tried at
  the same place, that part is told in its stead; if it came farther before it failed, what
  was tried there is told.
-/
import TestCoverage.Text.Spot

namespace TestCoverage.Json5

/-- The parts of a document that an error can name. -/
inductive Kind where
  | documentEnd
  | array
  | boolean
  | letterEscape
  | plainChar
  | hexEscape
  | name
  | nulEscape
  | null
  | number
  | object
  | string
  | unicodeEscape
deriving DecidableEq, Repr

namespace Kind

/-- The kind as an error names it. -/
def describe : Kind → String
  | documentEnd => "EOI"
  | array => "array"
  | boolean => "boolean"
  | letterEscape => "char_escape_sequence"
  | plainChar => "char_literal"
  | hexEscape => "hex_escape_sequence"
  | name => "identifier"
  | nulEscape => "nul_escape_sequence"
  | null => "null"
  | number => "number"
  | object => "object"
  | string => "string"
  | unicodeEscape => "unicode_escape_sequence"

/-- All kinds, in the order in which an error lists them. -/
def all : List Kind :=
  [documentEnd, array, boolean, letterEscape, plainChar, hexEscape, name, nulEscape, null,
    number, object, string, unicodeEscape]

end Kind

/-- The farthest place, told by how much text is left there, and the kinds tried in vain. -/
structure Trail where
  left : Nat
  kinds : List Kind
deriving DecidableEq, Repr

namespace Trail

/-- How many kinds have been tried in vain at a place. -/
def count (trail : Trail) (left : Nat) : Nat :=
  if trail.left = left then trail.kinds.length else 0

/-- The trail after a kind has failed at a place; `before` is the trail from before it was
    tried. -/
def record (kind : Kind) (left : Nat) (before trail : Trail) : Trail :=
  if trail.count left = before.count left + 1 then trail
  else if trail.left = left then
    ⟨left, trail.kinds.take (before.count left) ++ [kind]⟩
  else if left < trail.left then ⟨left, [kind]⟩
  else trail

/-- The kinds that were tried in vain, in words. -/
def expectation (trail : Trail) : String :=
  let names := (Kind.all.filter trail.kinds.contains).map Kind.describe
  match names.reverse with
  | [] => "unknown parsing error"
  | [only] => s!"expected {only}"
  | [second, first] => s!"expected {first} or {second}"
  | last :: others => "expected " ++ ", ".intercalate others.reverse ++ s!", or {last}"

/-- The line ends in a text as visible signs. -/
def withSigns (text : List Char) : List Char :=
  text.map fun c => if c = '\r' then '␍' else if c = '\n' then '␊' else c

/-- The error in words: the place, its line with a mark under the place, and what was
    expected. -/
def message (document : List Char) (trail : Trail) : String :=
  let before := document.take (document.length - trail.left)
  let rest := document.drop before.length
  let spot := Text.Spot.behind (fun _ => 1) before
  let ahead := rest.takeWhile (· != '\n')
  let opening := (before.reverse.takeWhile (· != '\n')).reverse
  let shown := match rest with
    | '\n' :: _ | '\r' :: _ => withSigns (opening ++ rest.take (ahead.length + 1))
    | _ => (opening ++ ahead).filter fun c => c != '\r' && c != '\n'
  let number := toString (spot.line + 1)
  let blank := String.ofList (List.replicate number.length ' ')
  let underline := (shown.take spot.column).map fun c => if c = '\t' then c else ' '
  let lines := [s!"{blank}--> {number}:{spot.column + 1}", s!"{blank} |",
    s!"{number} | {String.ofList shown}", s!"{blank} | {String.ofList underline}^---",
    s!"{blank} |", s!"{blank} = {trail.expectation}"]
  "\n".intercalate lines

end Trail
end TestCoverage.Json5
