/-
  TestCoverage.Settings.Error

  Settings that cannot be used.
-/
import TestCoverage.Text.Utf8

namespace TestCoverage

/-- Why settings cannot be used: a file is no document of its format, a value is of the wrong
    kind, or a variable of the process is no text.  The key and the origin of a value are told
    if they are known. -/
inductive SettingsError where
  | unreadable (reason : String) (origin : Option String)
  | mistyped (found expected : String) (key origin : Option String)
  | notText (bytes : Bytes)
deriving DecidableEq, Repr

namespace SettingsError

/-- The place that something comes from, in words. -/
def inOrigin : Option String → String
  | some origin => s!" in {origin}"
  | none => ""

/-- What is wrong. -/
def reason : SettingsError → String
  | .unreadable reason origin => s!"{reason}{inOrigin origin}"
  | .mistyped found expected key origin =>
    let forKey := match key with
      | some key => s!" for key `{key}`"
      | none => ""
    s!"invalid type: {found}, expected {expected}{forKey}{inOrigin origin}"
  | .notText bytes => s!"{Utf8.display bytes} is no text"

/-- The error in words. -/
def message (error : SettingsError) : String :=
  s!"Failed to parse configuration: {error.reason}"

end SettingsError
end TestCoverage
