/-
  TestCoverage.Settings.Format

  The formats in which settings can be written, and the endings of file names that tell
  them.
-/
import TestCoverage.Ini.Document
import TestCoverage.Json.Document
import TestCoverage.Json5.Document
import TestCoverage.Ron.Document
import TestCoverage.Toml.Document
import TestCoverage.Yaml.Document

namespace TestCoverage.Settings

/-- A format of documents. -/
inductive Format where
  | toml
  | json
  | ini
  | ron
  | json5
  | yaml
deriving DecidableEq, Repr

namespace Format

/-- The endings of file names, and the formats that they tell. -/
def endings : List (String × Format) :=
  [("toml", .toml), ("json", .json), ("ini", .ini), ("ron", .ron),
    ("json5", .json5), ("yaml", .yaml), ("yml", .yaml)]

/-- The data that a document describes, or what is wrong with it. -/
def read : Format → List Char → Except String Datum
  | .toml, text => match Toml.parse? text with
    | some value => .ok value.datum
    | none => .error "TOML parse error"
  | .json, text => (Json.parse text).mapError Json.Error.message
  | .ini, text => Ini.parse text
  | .ron, text => Ron.parse text
  | .json5, text => Json5.parse text
  | .yaml, text => Yaml.parse text

end Format
end TestCoverage.Settings
