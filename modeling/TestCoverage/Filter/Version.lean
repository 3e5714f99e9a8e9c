/-
  TestCoverage.Filter.Version

  Texts in the order of the numbers within them, as versions are ordered.

  What stands between numbers is compared character by character: a tilde comes before the end,
  the end before letters, and letters before all else.
-/
import TestCoverage.Filter.Lines

namespace TestCoverage.Filter.Version

/-- What a character counts for in front of a number. -/
def weight : List Char → Int
  | [] => -1
  | c :: _ =>
    if c.isDigit then 0
    else if c.isAlpha then c.toNat
    else if c = '~' then -2
    else c.toNat + 256

/-- The order of what stands in front of the next number, or what is left of both texts if it
    is the same.  The bound is more than the characters of both. -/
def compareBetween : Nat → List Char → List Char → Except Ordering (List Char × List Char)
  | 0, a, b => .ok (a, b)
  | bound + 1, a, b =>
    if a.head?.all Char.isDigit ∧ b.head?.all Char.isDigit then .ok (a, b)
    else if weight a = weight b then compareBetween bound a.tail b.tail
    else .error (compare (weight a) (weight b))

/-- Two texts in order.  The bound is more than the characters of both. -/
def compareParts : Nat → List Char → List Char → Ordering
  | 0, _, _ | _, [], [] => .eq
  | bound + 1, a, b =>
    match compareBetween (a.length + b.length + 1) a b with
    | .error order => order
    | .ok (a, b) =>
      let numberA := a.takeWhile Char.isDigit
      let numberB := b.takeWhile Char.isDigit
      match compare ((number? numberA).getD 0) ((number? numberB).getD 0) with
      | .eq => compareParts bound (a.drop numberA.length) (b.drop numberB.length)
      | order => order

/-- The text begins with a part of an ending: a point, a letter, and letters and digits. -/
def beginsEnding : List Char → Bool
  | '.' :: c :: _ => c.isAlpha || c == '~'
  | _ => false

/-- Nothing but endings stands in the text.  The bound is its length. -/
def isEnding : Nat → List Char → Bool
  | _, [] => true
  | 0, _ => false
  | bound + 1, text =>
    beginsEnding text
      && isEnding bound ((text.drop 2).dropWhile fun c => c.isAlphanum || c == '~')

/-- The length of a name without the endings behind its first character. -/
def stemLength (name : List Char) : Nat :=
  ((List.range (name.length + 1)).find? fun i =>
    0 < i && isEnding name.length (name.drop i)).getD name.length

/-- The place of a name among hidden ones and others. -/
def rank (name : List Char) : Nat :=
  match name with
  | [] => 0
  | ['.'] => 1
  | ['.', '.'] => 2
  | '.' :: _ => 3
  | _ => 4

/-- Two names in order: their stems, and then all of them. -/
def compareNames (a b : List Char) : Ordering :=
  let bound := a.length + b.length + 1
  match compare (rank a) (rank b) with
  | .eq =>
    match compareParts bound (a.take (stemLength a)) (b.take (stemLength b)) with
    | .eq => compareParts bound a b
    | order => order
  | order => order

example : compareNames "1.9".toList "1.10".toList = .lt := by decide +kernel
example : compareNames "a~".toList "a".toList = .lt := by decide +kernel
example : compareNames "a.tar.gz".toList "a1.gz".toList = .lt := by decide +kernel

end TestCoverage.Filter.Version
