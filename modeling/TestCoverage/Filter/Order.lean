/-
  TestCoverage.Filter.Order

  Lines in order.

  Lines are compared by keys, which are parts of them, and at last as a whole.  Lines that
  are equal in all keys may be left out but for the first.
-/
import TestCoverage.Decimal.Arithmetic
import TestCoverage.Decimal.Reading
import TestCoverage.Filter.Version

namespace TestCoverage.Filter

/-! ## Comparing -/

/-- What is compared in texts. -/
inductive Sense where
  | text
  /-- a number in digits -/
  | number
  /-- a number that may have an exponent -/
  | general
  /-- a number with a letter for a thousand, a million and so on -/
  | size
  /-- the name of a month -/
  | month
  | version
deriving DecidableEq, Repr

/-- How texts are compared. -/
structure Comparison where
  sense : Sense := .text
  foldsCase : Bool := false
  /-- only blanks, letters and digits count -/
  dictionary : Bool := false
  /-- only characters that can be printed count -/
  printable : Bool := false
  skipsBlanks : Bool := false
  reversed : Bool := false
deriving DecidableEq, Repr

/-- A blank: a space or a tab. -/
def isBlank (c : Char) : Bool :=
  c == ' ' || c == '\t'

/-- Two texts in the order of their characters. -/
def compareTexts : List Char → List Char → Ordering
  | [], [] => .eq
  | [], _ :: _ => .lt
  | _ :: _, [] => .gt
  | a :: as, b :: bs => (compare a.toNat b.toNat).then (compareTexts as bs)

/-- The number at the beginning of a text: its sign, its whole part, and the digits of its
    fraction. -/
def leadingNumber (text : List Char) : Bool × Nat × List Char :=
  let text := text.dropWhile isBlank
  let (negative, text) := match text with
    | '-' :: rest => (true, rest)
    | _ => (false, text)
  let whole := text.takeWhile Char.isDigit
  let fraction := match text.drop whole.length with
    | '.' :: rest => rest.takeWhile Char.isDigit
    | _ => []
  (negative, (number? whole).getD 0, (fraction.reverse.dropWhile (· == '0')).reverse)

/-- Two texts in the order of the numbers at their beginnings. -/
def compareNumbers (a b : List Char) : Ordering :=
  let (negativeA, wholeA, fractionA) := leadingNumber a
  let (negativeB, wholeB, fractionB) := leadingNumber b
  let isZeroA := wholeA == 0 && fractionA.isEmpty
  let isZeroB := wholeB == 0 && fractionB.isEmpty
  let size := (compare wholeA wholeB).then (compareTexts fractionA fractionB)
  match negativeA && !isZeroA, negativeB && !isZeroB with
  | false, false => size
  | true, true => size.swap
  | true, false => .lt
  | false, true => .gt

/-- The number at the beginning of a text, which may have an exponent. -/
def generalNumber? (text : List Char) : Option Binary64 :=
  let (below, digits) := Decimal.splitSign (text.dropWhile isBlank)
  match String.ofList ((digits.take 3).map Char.toLower) with
  | "inf" => some (.infinite below)
  | "nan" => some .nan
  | _ => Decimal.positive? (digits.take (Decimal.leadingLength digits)) below

/-- Two texts in the order of the numbers at their beginnings, which may have exponents.  Texts
    without one come first, and then what is no number. -/
def compareGeneral (a b : List Char) : Ordering :=
  let rank (x : Option Binary64) : Nat :=
    match x with
    | none => 0
    | some .nan => 1
    | some _ => 2
  match generalNumber? a, generalNumber? b with
  | some x, some y => (x.order? y).getD (compare (rank (some x)) (rank (some y)))
  | x, y => compare (rank x) (rank y)

/-- How large the letter behind a number makes it: below zero for a number below zero, and
    nothing if it has no digits but zeros. -/
def sizeRank (text : List Char) : Int :=
  let (negative, digits) := match text.dropWhile isBlank with
    | '-' :: rest => (true, rest)
    | rest => (false, rest)
  let number := digits.takeWhile fun c => c.isDigit || c == '.'
  let unit := (digits.drop number.length).headD ' '
  let unit := if unit = 'k' then 'K' else unit
  let rank : Int := match "KMGTPEZYRQ".toList.findIdx? (· == unit) with
    | some i => i + 1
    | none => 0
  if number.all fun c => c == '0' || c == '.' then 0 else if negative then -rank else rank

/-- The months as they are named. -/
def months : List String :=
  ["JAN", "FEB", "MAR", "APR", "MAY", "JUN", "JUL", "AUG", "SEP", "OCT", "NOV", "DEC"]

/-- The number of the month that a text names; zero for others. -/
def monthOf (text : List Char) : Nat :=
  let name := String.ofList (((text.dropWhile isBlank).take 3).map Char.toUpper)
  ((months.findIdx? (· == name)).map (· + 1)).getD 0

/-- Two texts in the order that is asked for. -/
def Comparison.compare (comparison : Comparison) (a b : List Char) : Ordering :=
  let prepared (text : List Char) : List Char :=
    let text :=
      if comparison.dictionary then text.filter fun c => isBlank c || c.isAlphanum
      else if comparison.printable then text.filter fun c => ' ' ≤ c && c ≤ '~'
      else text
    if comparison.foldsCase then text.map Char.toUpper else text
  let order := match comparison.sense with
    | .text => compareTexts (prepared a) (prepared b)
    | .number => compareNumbers a b
    | .general => compareGeneral a b
    | .size => (Ord.compare (sizeRank a) (sizeRank b)).then (compareNumbers a b)
    | .month => Ord.compare (monthOf a) (monthOf b)
    | .version => Version.compareNames a b
  if comparison.reversed then order.swap else order

/-! ## Keys -/

/-- A position in a line: a field and a character of it, counted from one.  The character
    zero at the end of a key is the last one of its field. -/
structure KeyPosition where
  field : Nat
  character : Nat
  skipsBlanks : Bool := false
deriving DecidableEq, Repr

/-- A part of a line. -/
structure SortKey where
  first : KeyPosition
  last : Option KeyPosition := none
  /-- how the parts are compared, if it is said -/
  comparison : Option Comparison := none
deriving DecidableEq, Repr

/-- The text behind one field.  Without a separator a field ends before the blanks that
    follow it, and begins with those that precede it. -/
def behindField (separator : Option Char) (text : List Char) : List Char :=
  match separator with
  | some c => (text.dropWhile (· ≠ c)).drop 1
  | none => (text.dropWhile isBlank).dropWhile (!isBlank ·)

/-- The text behind so many fields. -/
def behindFields (separator : Option Char) : Nat → List Char → List Char
  | 0, text => text
  | count + 1, text => behindFields separator count (behindField separator text)

/-- The number of characters in front of the beginning of a key. -/
def SortKey.beginning (key : SortKey) (separator : Option Char) (line : List Char) : Nat :=
  let text := behindFields separator (key.first.field - 1) line
  let text := if key.first.skipsBlanks then text.dropWhile isBlank else text
  line.length - (text.drop (key.first.character - 1)).length

/-- The number of characters up to the end of a key. -/
def SortKey.finish (key : SortKey) (separator : Option Char) (line : List Char) : Nat :=
  match key.last with
  | none => line.length
  | some last =>
    let text := behindFields separator (last.field - 1) line
    if last.character = 0 then
      match separator with
      | some c => line.length - text.length + (text.takeWhile (· ≠ c)).length
      | none => line.length - (behindField none text).length
    else
      let text := if last.skipsBlanks then text.dropWhile isBlank else text
      min line.length (line.length - text.length + last.character)

/-- The part of a line that a key names. -/
def SortKey.textOf (key : SortKey) (separator : Option Char) (line : List Char) : List Char :=
  let beginning := key.beginning separator line
  (line.drop beginning).take (key.finish separator line - beginning)

/-- The comparison with what a letter asks for. -/
def Comparison.withLetter? (comparison : Comparison) : Char → Option Comparison
  | 'n' => some { comparison with sense := .number }
  | 'g' => some { comparison with sense := .general }
  | 'h' => some { comparison with sense := .size }
  | 'M' => some { comparison with sense := .month }
  | 'V' => some { comparison with sense := .version }
  | 'i' => some { comparison with printable := true }
  | 'R' => some comparison
  | 'f' => some { comparison with foldsCase := true }
  | 'd' => some { comparison with dictionary := true }
  | 'b' => some { comparison with skipsBlanks := true }
  | 'r' => some { comparison with reversed := true }
  | _ => none

/-- Reads a position of a key: a field, a character behind a point, and letters. -/
def readKeyPosition (character : Nat) (text : List Char) :
    Option (KeyPosition × Option Comparison × List Char) := do
  let field := text.takeWhile Char.isDigit
  let n ← number? field
  let text := text.drop field.length
  let (character, text) ← match text with
    | '.' :: rest =>
      let digits := rest.takeWhile Char.isDigit
      (number? digits).map fun m => (m, rest.drop digits.length)
    | _ => some (character, text)
  let letters := text.takeWhile (· ≠ ',')
  let comparison ← letters.foldlM Comparison.withLetter? {}
  if n = 0 then none
  else
    return (⟨n, character, comparison.skipsBlanks⟩,
      if letters.isEmpty then none else some comparison, text.drop letters.length)

/-- The key that a text writes. -/
def sortKey? (text : List Char) : Option SortKey := do
  let (first, comparison, rest) ← readKeyPosition 1 text
  match rest with
  | ',' :: rest =>
    let (last, other, _) ← readKeyPosition 0 rest
    let merged := match comparison, other with
      | some a, some b => some { a with
          sense := if b.sense = .text then a.sense else b.sense
          foldsCase := a.foldsCase || b.foldsCase
          dictionary := a.dictionary || b.dictionary
          printable := a.printable || b.printable
          reversed := a.reversed || b.reversed }
      | a, b => a.or b
    return ⟨first, some last, merged⟩
  | _ => return ⟨first, none, comparison⟩

/-! ## Sorting -/

/-- How lines are sorted. -/
structure Sorting where
  comparison : Comparison := {}
  keys : List SortKey := []
  separator : Option Char := none
  unique : Bool := false
  stable : Bool := false

/-- Two lines in the order of the keys.  A key without letters of its own is compared like
    whole lines. -/
def Sorting.compareKeys (sorting : Sorting) (a b : List Char) : Ordering :=
  if sorting.keys.isEmpty then
    let prepared (line : List Char) : List Char :=
      if sorting.comparison.skipsBlanks then line.dropWhile isBlank else line
    sorting.comparison.compare (prepared a) (prepared b)
  else
    sorting.keys.foldl (fun order key =>
      let comparison := key.comparison.getD sorting.comparison
      let key := if key.comparison.isNone ∧ comparison.skipsBlanks then
          { key with first.skipsBlanks := true }
        else key
      order.then (comparison.compare (key.textOf sorting.separator a)
        (key.textOf sorting.separator b))) .eq

/-- Two lines in order: by the keys, and if that says nothing, as a whole. -/
def Sorting.compareLines (sorting : Sorting) (a b : List Char) : Ordering :=
  (sorting.compareKeys a b).then
    (if sorting.unique || sorting.stable then .eq
    else if sorting.comparison.reversed then (compareTexts a b).swap
    else compareTexts a b)

/-- The lines without those that are equal in all keys to the one before them. -/
def Sorting.withoutRepeated (sorting : Sorting) (lines : List (List Char)) :
    List (List Char) :=
  (lines.foldl (fun (kept : List (List Char)) line =>
    match kept with
    | last :: _ => if sorting.compareKeys last line = .eq then kept else line :: kept
    | [] => [line]) []).reverse

/-- The lines in order. -/
def Sorting.sort (sorting : Sorting) (lines : List (List Char)) : List (List Char) :=
  let sorted := lines.mergeSort fun a b => sorting.compareLines a b != .gt
  if sorting.unique then sorting.withoutRepeated sorted else sorted

/-- The number and the text of the first line that should stand before the one in front of
    it. -/
def Sorting.disorder? (sorting : Sorting) (lines : List (List Char)) :
    Option (Nat × List Char) :=
  let pairs := lines.zip (lines.drop 1)
  (pairs.zipIdx.find? fun ((a, b), _) =>
    let order := sorting.compareLines a b
    order == .gt || (sorting.unique && order == .eq)).map fun ((_, b), index) => (index + 2, b)

example : ({} : Sorting).compareLines "B".toList "a".toList = .lt := by decide +kernel
example : ({ comparison := { sense := .number } } : Sorting).compareLines "10".toList
    "9.5".toList = .gt := by decide +kernel
example : ((sortKey? "2,2n".toList).map fun key =>
      ({ keys := [key] } : Sorting).compareLines "a 10".toList "b 9".toList) = some .gt := by
  decide +kernel
example : ((sortKey? "1.2,1.2".toList).map fun key =>
      key.textOf (some ':') "abc:d".toList) = some ['b'] := by decide +kernel

end TestCoverage.Filter
