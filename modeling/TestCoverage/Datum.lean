/-
  TestCoverage.Datum

  Data as a document describes them, whatever the format of the document: simple values,
  lists, and tables with names.
-/
import TestCoverage.Decimal.Reading
import TestCoverage.Decimal.Written
import TestCoverage.Entries
import TestCoverage.Text.Quoted

namespace TestCoverage

/-- What a document or a part of it describes. -/
inductive Datum where
  | nothing
  | boolean (value : Bool)
  | integer (value : Int)
  | float (value : Binary64)
  | text (text : String)
  | list (elements : List Datum)
  | table (entries : List (String × Datum))
deriving Repr

namespace Datum

/-- A number as a datum: an integer if it has 64 bits with a sign. -/
def ofInt (value : Int) : Datum :=
  match Decimal.int64? (value < 0) value.natAbs with
  | some value => .integer value
  | none => .float ((Binary64.ofNat value.natAbs).withSign (value < 0))

/-- A table of names and data.  Of several data under one name the last one counts. -/
def ofEntries (entries : List (String × Datum)) : Datum :=
  .table (Entries.setAll [] entries)

/-- The kind of a datum, and its value if it is a simple one. -/
def describe : Datum → String
  | .nothing => "unit value"
  | .boolean value => s!"boolean `{value}`"
  | .integer value => s!"64-bit integer `{value}`"
  | .float value => s!"floating point `{String.ofList value.plain}`"
  | .text value => s!"string {Text.quoted value.toList}"
  | .list _ => "sequence"
  | .table _ => "map"

end Datum
end TestCoverage
