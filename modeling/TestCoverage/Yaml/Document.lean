/-
  TestCoverage.Yaml.Document

  YAML as data.  A text holds at most one document, and what is not a simple value is no
  key.
-/
import TestCoverage.Datum
import TestCoverage.Yaml.Reader

namespace TestCoverage.Yaml

/-- The name that a key is. -/
def Node.name : Node → Except String String
  | .text chars | .real chars => .ok (String.ofList chars)
  | .integer value => .ok (toString value)
  | .boolean value => .ok (toString value)
  | node => .error s!"Cannot parse {node.show} as supported hash key type"

mutual

/-- What a node describes. -/
def Node.datum : Node → Except String Datum
  | .null | .invalid => .ok .nothing
  | .boolean value => .ok (.boolean value)
  | .integer value => .ok (.integer value)
  | .real chars => match Decimal.float? chars with
    | some value => .ok (.float value)
    | none => .error s!"Parsing {String.ofList chars} as floating point number failed"
  | .text chars => .ok (.text (String.ofList chars))
  | .list elements => (elementData elements).map .list
  | .map entries => (entryData entries).map Datum.ofEntries

/-- What the elements of a list describe. -/
def elementData : List Node → Except String (List Datum)
  | [] => .ok []
  | node :: rest => do
    let datum ← node.datum
    let data ← elementData rest
    return datum :: data

/-- What the entries of a map describe. -/
def entryData : List (Node × Node) → Except String (List (String × Datum))
  | [] => .ok []
  | (key, value) :: rest => do
    let name ← key.name
    let datum ← value.datum
    let data ← entryData rest
    return (name, datum) :: data

end

/-- The data that a document describes. -/
def parse (document : List Char) : Except String Datum := do
  match ← (nodesOf document).mapError Fault.message with
  | [] => return .table []
  | [node] => node.datum
  | nodes => throw s!"Got {nodes.length} YAML documents, expected 1"

end TestCoverage.Yaml
