/-
  TestCoverage.Ron.Value

  The values of a RON document and what they describe.

  The entries of a map stand in the order of their keys.
-/
import TestCoverage.Datum
import TestCoverage.Decimal.Arithmetic
import TestCoverage.Text.Quoted

namespace TestCoverage.Ron

/-- A value.  Of a structure only its fields count, not its name. -/
inductive Value where
  | unit
  | absent
  | present (value : Value)
  | boolean (value : Bool)
  | integer (value : Int)
  | float (value : Binary64)
  | char (value : Char)
  | string (text : List Char)
  | list (elements : List Value)
  | map (entries : List (Value × Value))
deriving Repr

/-! ## Order -/

/-- The place of the kind of a value among the kinds. -/
def Value.rank : Value → Nat
  | .boolean _ => 0
  | .char _ => 1
  | .map _ => 2
  | .integer _ => 3
  | .float _ => 4
  | .absent => 5
  | .present _ => 6
  | .string _ => 7
  | .list _ => 8
  | .unit => 9

/-- The order of two numbers; what is no number goes first. -/
def floatOrder (a b : Binary64) : Ordering :=
  match a, b with
  | .nan, .nan => .eq
  | .nan, _ => .lt
  | _, .nan => .gt
  | a, b => (Binary64.order? a b).getD .eq

/-- The order of two texts. -/
def textOrder : List Char → List Char → Ordering
  | [], [] => .eq
  | [], _ :: _ => .lt
  | _ :: _, [] => .gt
  | a :: as, b :: bs => (compare a.toNat b.toNat).then (textOrder as bs)

mutual

/-- The order of two values. -/
def Value.order : Value → Value → Ordering
  | .boolean a, .boolean b => compare a.toNat b.toNat
  | .char a, .char b => compare a.toNat b.toNat
  | .map a, .map b => entryOrder a b
  | .integer a, .integer b => compare a b
  | .float a, .float b => floatOrder a b
  | .present a, .present b => a.order b
  | .string a, .string b => textOrder a b
  | .list a, .list b => elementOrder a b
  | a, b => compare a.rank b.rank

/-- The order of two lists, by the first elements in which they differ. -/
def elementOrder : List Value → List Value → Ordering
  | [], [] => .eq
  | [], _ :: _ => .lt
  | _ :: _, [] => .gt
  | a :: as, b :: bs => (a.order b).then (elementOrder as bs)

/-- The order of two maps, by the first entries in which they differ. -/
def entryOrder : List (Value × Value) → List (Value × Value) → Ordering
  | [], [] => .eq
  | [], _ :: _ => .lt
  | _ :: _, [] => .gt
  | (key, value) :: as, (key', value') :: bs =>
    ((key.order key').then (value.order value')).then (entryOrder as bs)

end

/-- The entries with one more.  The value of a key that is there already is replaced. -/
def insertEntry (key value : Value) : List (Value × Value) → List (Value × Value)
  | [] => [(key, value)]
  | (key', value') :: rest =>
    match key.order key' with
    | .lt => (key, value) :: (key', value') :: rest
    | .eq => (key', value) :: rest
    | .gt => (key', value') :: insertEntry key value rest

/-- The map of some entries; of two values for a key the later one counts. -/
def Value.ofEntries (entries : List (Value × Value)) : Value :=
  .map (entries.foldl (fun map entry => insertEntry entry.1 entry.2 map) [])

/-! ## Data -/

/-- The value as an error names it when a text was wanted. -/
def Value.describe : Value → String
  | .unit => "a unit value"
  | .absent | .present _ => "an optional value"
  | .boolean value => s!"the boolean `{value}`"
  | .integer value => s!"the signed integer `{value}`"
  | .float value => s!"the floating point number `{String.ofList value.plain}`"
  | .char value => s!"the UTF-8 character `{value}`"
  | .string text => s!"the string {Text.quoted text}"
  | .list _ => "a sequence"
  | .map _ => "a map"

/-- The name that a value is when it stands before a colon. -/
def Value.name : Value → Except String String
  | .string text => .ok (String.ofList text)
  | .char c => .ok (String.ofList [c])
  | value => .error s!"Expected a string but found {value.describe} instead"

mutual

/-- What a value describes. -/
def Value.datum : Value → Except String Datum
  | .unit | .absent => .ok .nothing
  | .present value => value.datum
  | .boolean value => .ok (.boolean value)
  | .integer value => .ok (.integer value)
  | .float value => .ok (.float value)
  | .char c => .ok (.text (String.ofList [c]))
  | .string text => .ok (.text (String.ofList text))
  | .list elements => (elementData elements).map .list
  | .map entries => (entryData entries).map Datum.ofEntries

/-- What the elements of a list describe. -/
def elementData : List Value → Except String (List Datum)
  | [] => .ok []
  | value :: rest => do
    let datum ← value.datum
    let data ← elementData rest
    return datum :: data

/-- What the entries of a map describe. -/
def entryData : List (Value × Value) → Except String (List (String × Datum))
  | [] => .ok []
  | (key, value) :: rest => do
    let name ← key.name
    let datum ← value.datum
    let data ← entryData rest
    return (name, datum) :: data

end

end TestCoverage.Ron
