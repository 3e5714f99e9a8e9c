/-
  TestCoverage.Awk.Table

  Arrays: values under keys that are integers or texts.

  The keys come in an order that looks like none.  Each key belongs to one of sixty-four buckets,
  and within a bucket the key that was last looked for comes first.  An array knows its integers
  by themselves until a text is looked for, or all keys are; then they are texts as well.
-/
import TestCoverage.Awk.Value
import TestCoverage.Entries

namespace TestCoverage.Awk

/-- A key of an array. -/
inductive Key where
  | integer (n : Int)
  | text (text : List Char)
deriving DecidableEq, Repr

/-- The key that a value stands for, with a format for numbers. -/
def Key.ofValue (format : List Char) : Value → Key
  | .number x =>
    match Numeral.integer? x with
    | some n => integer n
    | none => text (Numeral.text format x)
  | value => text (value.toText format)

/-- The text of a key. -/
def Key.toText : Key → List Char
  | integer n => Numeral.ofInt n
  | text s => s

/-- An array. -/
structure Table where
  values : Entries Value := []
  /-- the integers that are known as such, the last one that was looked for first -/
  integers : List Int := []
  /-- the texts, in the same order, if there are any yet -/
  texts : Option (List (List Char)) := none
  /-- the keys are numbers from one on, and none has been looked for -/
  isFresh : Bool := false
deriving Repr

namespace Table

/-! ## Buckets -/

/-- The number of buckets. -/
def buckets : Nat := 64

/-- The bucket of a text. -/
def bucketOf (text : List Char) : Nat :=
  text.foldl (fun hash c => (hash.xor c.toNat) * 16777619 % 4294967296) 2166136261 % buckets

/-- The bucket of an integer. -/
def bucketOfInt (n : Int) : Nat :=
  (n % buckets).toNat

/-- Values by their place, from one on. -/
def ofValues (values : List Value) : Table where
  values := values.zipIdx.map fun (value, i) => (String.ofList (Nat.toDigits 10 (i + 1)), value)
  isFresh := !values.isEmpty

/-- The array with its integers known by themselves. -/
def withIntegers (table : Table) : Table :=
  if table.isFresh then
    let places := (List.range table.values.length).reverse
    { table with integers := places.map fun i => ((i + 1 : Nat) : Int), isFresh := false }
  else table

/-- The array with all its keys known as texts. -/
def withTexts (table : Table) : Table :=
  match table.texts with
  | some _ => table
  | none =>
    let table := table.withIntegers
    let inOrder := (List.range buckets).flatMap fun bucket =>
      table.integers.filter (bucketOfInt · = bucket)
    { table with texts := some (inOrder.reverse.map Numeral.ofInt) }

/-- The name under which a key's value is kept. -/
def name (key : List Char) : String :=
  String.ofList key

/-! ## Looking for keys -/

/-- Looks for a text, which is there at last if it is to be made. -/
def lookForText (makes : Bool) (text : List Char) (table : Table) : Table :=
  let table := table.withTexts
  let texts := table.texts.getD []
  if texts.contains text then { table with texts := some (text :: texts.erase text) }
  else if makes then
    { table with
      texts := some (text :: texts), values := table.values.set (name text) .nothing }
  else table

/-- Looks for an integer, which is there at last if it is to be made. -/
def lookForInteger (makes : Bool) (n : Int) (table : Table) : Table :=
  let text := Numeral.ofInt n
  let isThere := (table.values.get? (name text)).isSome
  if table.isFresh ∧ (isThere ∨ ¬ makes) then table
  else
    let table := table.withIntegers
    if table.integers.contains n then
      { table with integers := n :: table.integers.erase n }
    else if table.texts.isSome then
      let table := table.lookForText makes text
      if isThere ∨ makes then { table with integers := n :: table.integers } else table
    else if makes then
      { table with
        integers := n :: table.integers, values := table.values.set (name text) .nothing }
    else table

/-- Looks for a key, which is there at last if it is to be made.  In an array with nothing in
    it there is nothing to look for. -/
def lookFor (makes : Bool) (key : Key) (table : Table) : Table :=
  if table.values.isEmpty ∧ ¬ makes then table
  else match key with
    | .integer n => table.lookForInteger makes n
    | .text text => table.lookForText makes text

/-- The value under a key. -/
def get? (key : Key) (table : Table) : Option Value :=
  table.values.get? (name key.toText)

/-- The array with a value under a key that has been made before. -/
def put (key : Key) (value : Value) (table : Table) : Table :=
  { table with values := table.values.set (name key.toText) value }

/-- The array without a key. -/
def without (key : Key) (table : Table) : Table :=
  if (table.get? key).isNone then table.lookFor false key
  else
    let table := (table.lookFor false key).withIntegers
    let text := key.toText
    let values := table.values.erase (name text)
    if values.isEmpty then {}
    else { table with
      values
      integers := table.integers.filter (Numeral.ofInt · ≠ text)
      texts := table.texts.map (·.erase text) }

/-- All keys in their order. -/
def keys (table : Table) : List (List Char) :=
  let texts := table.withTexts.texts.getD []
  (List.range buckets).flatMap fun bucket => texts.filter (bucketOf · = bucket)

example : (([['b'], ['a'], ['c']].foldl (fun (table : Table) text =>
      table.lookFor true (.text text)) {}).lookFor true (.integer 10)).keys =
    [['1', '0'], ['c'], ['b'], ['a']] := by decide +kernel
example : (ofValues [.nothing, .nothing, .nothing]).keys = [['3'], ['2'], ['1']] := by
  decide +kernel

end Table
end TestCoverage.Awk
