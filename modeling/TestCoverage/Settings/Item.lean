/-
  TestCoverage.Settings.Item

  Settings before they are typed: what the layers say, each value with the place it comes
  from.

  Giving a name a value replaces the value it had, but a table goes into the table that is
  there, name by name.  So a layer changes only what it mentions, and an empty table
  changes nothing.
-/
import TestCoverage.Datum
import TestCoverage.Text.LowerCase

namespace TestCoverage.Settings

/-- A value without parts. -/
inductive Scalar where
  | nothing
  | text (text : String)
  | integer (value : Int)
  | float (value : Binary64)
  | boolean (value : Bool)
deriving DecidableEq, Repr

/-- A value and its origin, which is unknown if the value came about by putting layers
    together. -/
inductive Item where
  | scalar (origin : Option String) (value : Scalar)
  | list (origin : Option String) (elements : List Item)
  | table (origin : Option String) (entries : List (String × Item))
deriving Repr

namespace Item

/-- A place that has been made but not filled. -/
def blank : Item := .scalar none .nothing

/-- Where the value comes from. -/
def origin : Item → Option String
  | scalar origin _ | list origin _ | table origin _ => origin

/-- The entries of a table; none if it is something else. -/
def entries : Item → Entries Item
  | table _ entries => entries
  | _ => []

/-- The elements of a list; none if it is something else. -/
def elements : Item → List Item
  | list _ elements => elements
  | _ => []

/-- A table with other entries in place of the value's own.  What was no table becomes
    one. -/
def withEntries (item : Item) (entries : Entries Item) : Item :=
  match item with
  | table origin _ => table origin entries
  | _ => table none entries

/-- A list with other elements in place of the value's own.  What was no list becomes
    one. -/
def withElements (item : Item) (elements : List Item) : Item :=
  match item with
  | list origin _ => list origin elements
  | _ => list none elements

/-! ## Giving names values -/

mutual

/-- Gives a name a value.  Names are kept in lower case. -/
def assign (entries : Entries Item) (name : String) : Item → Entries Item
  | table _ new =>
    let name := Text.lowered name
    entries.set name (merge ((entries.get? name).getD (.table none [])) new)
  | item => entries.set (Text.lowered name) item

/-- Gives names in a table values, in order.  What is no table becomes one with the first
    name. -/
def merge (target : Item) : List (String × Item) → Item
  | [] => target
  | (name, item) :: rest =>
    merge (target.withEntries (assign target.entries name item)) rest

end

/-- Gives a name in a table a value. -/
def assignIn (target : Item) (name : String) (item : Item) : Item :=
  target.withEntries (assign target.entries name item)

/-! ## From documents -/

mutual

/-- Data of a document from the given origin. -/
def ofDatum (origin : Option String) : Datum → Item
  | .nothing => scalar origin .nothing
  | .text text => scalar origin (.text text)
  | .integer value => scalar origin (.integer value)
  | .float value => scalar origin (.float value)
  | .boolean value => scalar origin (.boolean value)
  | .list elements => list origin (ofElements origin elements)
  | .table entries => table origin (ofEntries origin entries)

/-- Elements of a list in a document. -/
def ofElements (origin : Option String) : List Datum → List Item
  | [] => []
  | datum :: rest => ofDatum origin datum :: ofElements origin rest

/-- Entries of a table in a document. -/
def ofEntries (origin : Option String) : List (String × Datum) → List (String × Item)
  | [] => []
  | (name, datum) :: rest => (name, ofDatum origin datum) :: ofEntries origin rest

end

end Item
end TestCoverage.Settings
