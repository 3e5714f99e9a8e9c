/-
  TestCoverage.Settings.Json

  Settings written as JSON.  Every value has the type of its setting; nothing is converted.
-/
import TestCoverage.Json.Record
import TestCoverage.Settings

namespace TestCoverage

/-- A setting that is text. -/
def Settings.textField {σ : Type} (name : String) (set : String → σ → σ) : Json.Field σ :=
  .of name (Json.readText "a string") fun text => set (String.ofList text)

/-- How the names of the programs are written. -/
def Tools.shape : Json.Shape Tools where
  name := "ToolsConfig"
  fields := [
    Settings.textField "cargo" fun cargo tools => { tools with cargo },
    Settings.textField "rustc" fun rustc tools => { tools with rustc },
    Settings.textField "kcov" fun kcov tools => { tools with kcov }]
  default := {}

/-- How the settings of a run are written. -/
def Coverage.shape : Json.Shape Coverage where
  name := "CoverageConfig"
  fields := [
    Settings.textField "rustflags" fun rustflags coverage => { coverage with rustflags },
    Settings.textField "exclude_pattern"
      fun excludePattern coverage => { coverage with excludePattern },
    Settings.textField "output_subdir"
      fun outputSubdir coverage => { coverage with outputSubdir },
    .of "keep_going" Json.readBool fun keepGoing coverage => { coverage with keepGoing }]
  default := {}

namespace Settings

/-- How all settings are written. -/
def shape : Json.Shape Settings where
  name := "RunnerConfig"
  fields := [
    .of "tools" Tools.shape.read fun tools settings => { settings with tools },
    .of "coverage" Coverage.shape.read fun coverage settings => { settings with coverage }]
  default := {}

/-- Reads settings from JSON. -/
def ofJson (document : List Char) : Except Json.Error Settings :=
  Json.readDocument shape.read document

end Settings
end TestCoverage
