/-
  TestCoverage.Settings.Decode

  Typed settings from untyped values.

  A section is a table, in which unknown names are ignored, or a list of its settings in
  order; what is not given has its default.  Text settings also take numbers and truth
  values, by their text, and the truth value also takes numbers and some words.
-/
import TestCoverage.Decimal.Written
import TestCoverage.Settings
import TestCoverage.Settings.Error
import TestCoverage.Settings.Item
import TestCoverage.Text.Quoted

namespace TestCoverage.Settings

/-! ## Values -/

/-- A value as an error about a single setting shows it. -/
def Item.describe : Item → String
  | .scalar _ .nothing => "unit value"
  | .scalar _ (.text text) => s!"string {Text.quoted text.toList}"
  | .scalar _ (.integer value) => s!"integer `{value}`"
  | .scalar _ (.float value) => s!"floating point `{String.ofList value.plainWithPoint}`"
  | .scalar _ (.boolean value) => s!"boolean `{value}`"
  | .list .. => "sequence"
  | .table .. => "map"

/-- A value that is not what a setting takes. -/
def refuse {α : Type} (expected key : String) (item : Item) : Except SettingsError α :=
  .error (.mistyped item.describe expected (some key) item.origin)

/-- The text of a setting. -/
def decodeText (key : String) : Item → Except SettingsError String
  | .scalar _ (.text text) => .ok text
  | .scalar _ (.integer value) => .ok (toString value)
  | .scalar _ (.float value) => .ok (String.ofList value.plain)
  | .scalar _ (.boolean value) => .ok (if value then "true" else "false")
  | item => refuse "a string" key item

/-- Words for true. -/
def wordsForTrue : List String := ["1", "true", "on", "yes"]

/-- Words for false. -/
def wordsForFalse : List String := ["0", "false", "off", "no"]

/-- The truth value of a setting. -/
def decodeBool (key : String) : Item → Except SettingsError Bool
  | .scalar _ (.boolean value) => .ok value
  | .scalar _ (.integer value) => .ok (value ≠ 0)
  | .scalar _ (.float value) => .ok (!value.isZero)
  | .scalar origin (.text text) =>
    let word := Text.lowered text
    if word ∈ wordsForTrue then .ok true
    else if word ∈ wordsForFalse then .ok false
    else refuse "a boolean" key (.scalar origin (.text word))
  | item => refuse "a boolean" key item

/-! ## Sections -/

/-- A setting of a section: its name, and what its value, called by the given key, does to
    the section. -/
structure Member (σ : Type) where
  name : String
  decode : String → Item → σ → Except SettingsError σ

/-- A setting that is text. -/
def Member.text {σ : Type} (name : String) (set : String → σ → σ) : Member σ :=
  ⟨name, fun key item settings => (decodeText key item).map (set · settings)⟩

/-- A setting that is a truth value. -/
def Member.bool {σ : Type} (name : String) (set : Bool → σ → σ) : Member σ :=
  ⟨name, fun key item settings => (decodeBool key item).map (set · settings)⟩

/-- The settings that a table names. -/
def decodeTable {σ : Type} (header : String) (entries : Entries Item) :
    List (Member σ) → σ → Except SettingsError σ
  | [], settings => .ok settings
  | member :: members, settings => do
    let settings ← match entries.get? member.name with
      | some item => member.decode s!"{header}.{member.name}" item settings
      | none => .ok settings
    decodeTable header entries members settings

/-- The settings that a list has at their places. -/
def decodeList {σ : Type} (header : String) :
    Nat → List Item → List (Member σ) → σ → Except SettingsError σ
  | index, item :: items, member :: members, settings => do
    let settings ← member.decode s!"{header}[{index}]" item settings
    decodeList header (index + 1) items members settings
  | _, _, _, settings => .ok settings

/-- A section, if it is given. -/
def decodeSection {σ : Type} (name expected : String) (members : List (Member σ))
    (default : σ) (entries : Entries Item) : Except SettingsError σ :=
  match entries.get? name with
  | none => .ok default
  | some (.table _ entries) => decodeTable name entries members default
  | some (.list _ items) => decodeList name 0 items members default
  | some item => .error (.mistyped item.describe expected none none)

/-- The names of the programs. -/
def toolMembers : List (Member Tools) := [
  .text "cargo" fun cargo tools => { tools with cargo },
  .text "rustc" fun rustc tools => { tools with rustc },
  .text "kcov" fun kcov tools => { tools with kcov }]

/-- The settings of a run. -/
def coverageMembers : List (Member Coverage) := [
  .text "rustflags" fun rustflags coverage => { coverage with rustflags },
  .text "exclude_pattern" fun excludePattern coverage => { coverage with excludePattern },
  .text "output_subdir" fun outputSubdir coverage => { coverage with outputSubdir },
  .bool "keep_going" fun keepGoing coverage => { coverage with keepGoing }]

/-- All settings. -/
def decode (entries : Entries Item) : Except SettingsError Settings := do
  let tools ← decodeSection "tools" "struct ToolsConfig" toolMembers {} entries
  let coverage ← decodeSection "coverage" "struct CoverageConfig" coverageMembers {} entries
  return { tools, coverage }

end TestCoverage.Settings
