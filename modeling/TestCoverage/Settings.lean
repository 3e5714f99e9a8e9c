/-
  TestCoverage.Settings

  What can be configured, and the built-in values.
-/

namespace TestCoverage

/-- The programs that are called, by name or by path. -/
structure Tools where
  cargo : String := "cargo"
  rustc : String := "rustc"
  kcov : String := "kcov"
deriving DecidableEq, Repr

/-- How coverage is collected. -/
structure Coverage where
  /-- flags for the compiler in the instrumented build -/
  rustflags : String := "-C link-dead-code"
  /-- source paths that are left out of the report -/
  excludePattern : String := "/.cargo"
  /-- the directory for the report, seen from the target directory -/
  outputSubdir : String := "cov"
  /-- try every test executable even after one has failed -/
  keepGoing : Bool := false
deriving DecidableEq, Repr

/-- All settings. -/
structure Settings where
  tools : Tools := {}
  coverage : Coverage := {}
deriving DecidableEq, Repr

end TestCoverage
