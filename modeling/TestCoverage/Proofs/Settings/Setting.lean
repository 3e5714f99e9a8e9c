/-
  TestCoverage.Proofs.Settings.Setting

  The seven settings one by one: the section and the name of each, the variable that sets
  it, the value that it has, and how a value is read from an item.
-/
import TestCoverage.Settings.Layers

namespace TestCoverage.Settings

/-! ## Settings that are text -/

/-- A setting that is text. -/
inductive TextSetting where
  | cargo
  | rustc
  | kcov
  | rustflags
  | excludePattern
  | outputSubdir
deriving DecidableEq, Repr

namespace TextSetting

/-- The name of the section that the setting belongs to. -/
def sectionName : TextSetting → String
  | cargo | rustc | kcov => "tools"
  | rustflags | excludePattern | outputSubdir => "coverage"

/-- The name in the section. -/
def name : TextSetting → String
  | cargo => "cargo"
  | rustc => "rustc"
  | kcov => "kcov"
  | rustflags => "rustflags"
  | excludePattern => "exclude_pattern"
  | outputSubdir => "output_subdir"

/-- The place in a section that is a list. -/
def index : TextSetting → Nat
  | cargo | rustflags => 0
  | rustc | excludePattern => 1
  | kcov | outputSubdir => 2

/-- The name of the variable that sets it. -/
def variableName : TextSetting → String
  | cargo => "KCOV_RUNNER__TOOLS__CARGO"
  | rustc => "KCOV_RUNNER__TOOLS__RUSTC"
  | kcov => "KCOV_RUNNER__TOOLS__KCOV"
  | rustflags => "KCOV_RUNNER__COVERAGE__RUSTFLAGS"
  | excludePattern => "KCOV_RUNNER__COVERAGE__EXCLUDE_PATTERN"
  | outputSubdir => "KCOV_RUNNER__COVERAGE__OUTPUT_SUBDIR"

/-- The text that the settings have for it. -/
def get : TextSetting → Settings → String
  | cargo, settings => settings.tools.cargo
  | rustc, settings => settings.tools.rustc
  | kcov, settings => settings.tools.kcov
  | rustflags, settings => settings.coverage.rustflags
  | excludePattern, settings => settings.coverage.excludePattern
  | outputSubdir, settings => settings.coverage.outputSubdir

end TextSetting

/-! ## All settings -/

/-- A setting: one of those that are text, or whether to go on after a failure. -/
inductive Setting where
  | text (setting : TextSetting)
  | keepGoing
deriving DecidableEq, Repr

namespace Setting

/-- What a value of the setting is. -/
abbrev Value : Setting → Type
  | text _ => String
  | keepGoing => Bool

/-- The name of the section that the setting belongs to. -/
def sectionName : Setting → String
  | text setting => setting.sectionName
  | keepGoing => "coverage"

/-- The name in the section. -/
def name : Setting → String
  | text setting => setting.name
  | keepGoing => "keep_going"

/-- The place in a section that is a list. -/
def index : Setting → Nat
  | text setting => setting.index
  | keepGoing => 3

/-- The name of the variable that sets it. -/
def variableName : Setting → String
  | text setting => setting.variableName
  | keepGoing => "KCOV_RUNNER__COVERAGE__KEEP_GOING"

/-- The value that the settings have for it. -/
def get : (setting : Setting) → Settings → setting.Value
  | text setting, settings => setting.get settings
  | keepGoing, settings => settings.coverage.keepGoing

/-- The value that it has if nothing sets it. -/
def fallback (setting : Setting) : setting.Value :=
  setting.get {}

/-- The key that stands for it in a layer. -/
def key (setting : Setting) : String :=
  s!"{setting.sectionName}.{setting.name}"

/-- The place that the setting has among the items. -/
def place (setting : Setting) : Place :=
  ⟨setting.sectionName, [.name setting.name]⟩

/-- Settings are told apart by their names. -/
theorem name_injective : Function.Injective name := by
  intro s t h
  rcases s with (_ | _ | _ | _ | _ | _) | _ <;> rcases t with (_ | _ | _ | _ | _ | _) | _ <;>
    first | rfl | exact absurd h (by decide)

/-- Names are written in lower case. -/
theorem lowered_name (s : Setting) : Text.lowered s.name = s.name := by
  rcases s with (_ | _ | _ | _ | _ | _) | _ <;> decide +kernel

/-- So are the names of sections. -/
theorem lowered_sectionName (s : Setting) : Text.lowered s.sectionName = s.sectionName := by
  rcases s with (_ | _ | _ | _ | _ | _) | _ <;> decide +kernel

/-- The name of a section is a place at the top. -/
theorem ofKey_sectionName (s : Setting) : Place.ofKey s.sectionName = ⟨s.sectionName, []⟩ := by
  rcases s with (_ | _ | _ | _ | _ | _) | _ <;> decide +kernel

/-- A variable stands for the key of its setting. -/
theorem keyOf?_variableName (s : Setting) :
    Layer.keyOf? s.variableName = some s.key := by
  rcases s with (_ | _ | _ | _ | _ | _) | _ <;> decide +kernel

/-- The variables that lead to the user's directory set nothing. -/
theorem variableName_ne_directory (s : Setting) : s.variableName ≠ "XDG_CONFIG_HOME" := by
  rcases s with (_ | _ | _ | _ | _ | _) | _ <;> decide

theorem variableName_ne_home (s : Setting) : s.variableName ≠ "HOME" := by
  rcases s with (_ | _ | _ | _ | _ | _) | _ <;> decide

/-- The key of a setting leads to its place. -/
theorem ofKey_key (s : Setting) : Place.ofKey s.key = s.place := by
  rcases s with (_ | _ | _ | _ | _ | _) | _ <;> decide +kernel

/-- So no two settings have the same key. -/
theorem key_injective : Function.Injective key := by
  intro s t h
  have hplace : s.place = t.place := by rw [← ofKey_key, h, ofKey_key]
  have hname : [Step.name s.name] = [Step.name t.name] := congrArg Place.steps hplace
  exact name_injective (Step.name.inj (List.cons.inj hname).1)

/-! ## Settings from their values -/

/-- The settings with given values. -/
def assemble (value : (setting : Setting) → setting.Value) : Settings where
  tools := {
    cargo := value (text .cargo)
    rustc := value (text .rustc)
    kcov := value (text .kcov) }
  coverage := {
    rustflags := value (text .rustflags)
    excludePattern := value (text .excludePattern)
    outputSubdir := value (text .outputSubdir)
    keepGoing := value keepGoing }

@[simp] theorem get_assemble (value : (setting : Setting) → setting.Value) (s : Setting) :
    s.get (assemble value) = value s := by
  rcases s with (_ | _ | _ | _ | _ | _) | _ <;> rfl

/-- Settings are made of the values that they have. -/
theorem assemble_get (settings : Settings) : (assemble fun s => s.get settings) = settings :=
  rfl

/-- There is no more to settings than the value of each. -/
theorem eq_of_get_eq {a b : Settings} (h : ∀ s : Setting, s.get a = s.get b) : a = b := by
  rw [← assemble_get a, ← assemble_get b, funext h]

end Setting
end TestCoverage.Settings
