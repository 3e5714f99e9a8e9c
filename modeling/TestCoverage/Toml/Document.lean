/-
  TestCoverage.Toml.Document

  A TOML document as one table.

  Statements are carried out in order.  Each table remembers how it came to be, because a
  table that was written out may not be written out again, and a key with several parts
  does not add to it.
-/
import TestCoverage.Entries
import TestCoverage.Toml.Statement

namespace TestCoverage.Toml

/-- What a key of an unfinished document stands for. -/
inductive Node where
  /-- a value, which is complete -/
  | value (value : Value)
  /-- a table: `implied` if no header of its own has named it, `dotted` if it came from the
      first parts of a longer key -/
  | table (implied dotted : Bool) (entries : List (String × Node))
  /-- the tables under a header in double brackets -/
  | tables (elements : List (List (String × Node)))

/-- An unfinished table. -/
abbrev Draft := Entries Node

namespace Draft

/-- Changes the table that a path leads to, making the tables on the way.  The change is
    told whether that table is a dotted one.  With `dotted` the path is the first parts of a
    key: it makes dotted tables, and does not enter tables that a header has named.  The last
    of several tables under one header is the one that is meant. -/
def update (dotted : Bool) (change : Bool → Draft → Option Draft) :
    Key → Bool → Draft → Option Draft
  | [], isDotted, entries => change isDotted entries
  | name :: path, _, entries =>
    match entries.get? name with
    | none =>
      (update dotted change path dotted []).map fun inner =>
        entries.set name (.table true dotted inner)
    | some (.value _) => none
    | some (.table implied isDotted inner) =>
      if dotted ∧ ¬ implied then none
      else (update dotted change path isDotted inner).map fun inner =>
        entries.set name (.table implied isDotted inner)
    | some (.tables elements) =>
      match elements.reverse with
      | [] => none
      | last :: before =>
        (update dotted change path false last).map fun last =>
          entries.set name (.tables (before.reverse ++ [last]))

/-- Adds one entry.  The table that the first parts of the key lead to must be one that keys
    may add to, and must not have the last part yet. -/
def assign (entries : Draft) (key : Key) (value : Value) : Option Draft :=
  match key.reverse with
  | [] => none
  | last :: before =>
    let path := before.reverse
    let add (isDotted : Bool) (entries : Draft) : Option Draft :=
      if isDotted ≠ !path.isEmpty then none
      else if (entries.get? last).isSome then none
      else some (entries.set last (.value value))
    update true add path false entries

/-- Adds a header and the entries under it.  A table that was only implied before takes its
    place at the header. -/
def section? (entries : Draft) (isElement : Bool) (key : Key)
    (fill : Draft → Option Draft) : Option Draft :=
  match key.reverse with
  | [] => none
  | last :: before =>
    let open' (_ : Bool) (entries : Draft) : Option Draft :=
      if isElement then
        match entries.get? last with
        | none => (fill []).map fun inner => entries.set last (.tables [inner])
        | some (.tables elements) =>
          (fill []).map fun inner => entries.set last (.tables (elements ++ [inner]))
        | _ => none
      else
        match entries.get? last with
        | none => (fill []).map fun inner => entries.set last (.table false false inner)
        | some (.table true false inner) =>
          (fill inner).map fun inner => (entries.erase last).set last (.table false false inner)
        | _ => none
    update false open' before.reverse false entries

end Draft

/-! ## Carrying out statements -/

/-- The entries that stand before the next header, and the statements from there on. -/
def leadingEntries : List Statement → List (Key × Value) × List Statement
  | .entry key value :: rest =>
    let (entries, rest) := leadingEntries rest
    ((key, value) :: entries, rest)
  | rest => ([], rest)

/-- Adds entries in order. -/
def assignAll (pairs : List (Key × Value)) (entries : Draft) : Option Draft :=
  pairs.foldlM (fun entries (key, value) => entries.assign key value) entries

/-- Carries out the statements from a header on.  Entries belong to the last header before
    them. -/
def carryOut : List Statement → Draft → Option Draft
  | [], entries => some entries
  | .entry .. :: rest, entries => carryOut rest entries
  | .table key :: rest, entries => do
    let entries ← entries.section? false key (assignAll (leadingEntries rest).1)
    carryOut rest entries
  | .element key :: rest, entries => do
    let entries ← entries.section? true key (assignAll (leadingEntries rest).1)
    carryOut rest entries

mutual

/-- The finished value of a key. -/
def Node.toValue : Node → Value
  | .value v => v
  | .table _ _ entries => .table (Node.toValues entries)
  | .tables elements => .list (Node.toTables elements)

/-- The finished values of a table's keys. -/
def Node.toValues : List (String × Node) → List (String × Value)
  | [] => []
  | (name, node) :: rest => (name, node.toValue) :: Node.toValues rest

/-- The finished tables of a list. -/
def Node.toTables : List (List (String × Node)) → List Value
  | [] => []
  | entries :: rest => .table (Node.toValues entries) :: Node.toTables rest

end

/-! ## Moments in disguise -/

/-- The key that marks a moment. -/
def momentKey : String := "$__toml_private_datetime"

mutual

/-- What a value stands for.  A table that begins with the key for moments is the moment that
    the string behind the key writes, whatever else is in the table. -/
def Value.resolve? : Value → Option Value
  | .table ((name, value) :: entries) =>
    if name = momentKey then
      match value with
      | .string text => (momentOf? text.toList).map fun moment => .moment (String.ofList moment)
      | _ => none
    else do
      let value ← value.resolve?
      let entries ← Value.resolveEntries? entries
      return .table ((name, value) :: entries)
  | .list elements => (Value.resolveElements? elements).map .list
  | value => some value

/-- What the values of a table's keys stand for. -/
def Value.resolveEntries? : List (String × Value) → Option (List (String × Value))
  | [] => some []
  | (name, value) :: entries => do
    let value ← value.resolve?
    let entries ← Value.resolveEntries? entries
    return (name, value) :: entries

/-- What the elements of a list stand for. -/
def Value.resolveElements? : List Value → Option (List Value)
  | [] => some []
  | value :: elements => do
    let value ← value.resolve?
    let elements ← Value.resolveElements? elements
    return value :: elements

end

/-- What a document describes.  It is a table unless it begins with the key for moments. -/
def parse? (text : List Char) : Option Value := do
  let statements ← statements? text
  let entries ← assignAll (leadingEntries statements).1 []
  let entries ← carryOut (leadingEntries statements).2 entries
  Value.resolve? (.table (Node.toValues entries))

end TestCoverage.Toml
