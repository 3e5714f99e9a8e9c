/-
  TestCoverage.Proofs.Environment

  Variables by the bytes of their names, and what a child has of them.

  An environment is searched from its front, but its variables are set one after the other, so
  that the last value stands.  The two agree because no environment sets a variable twice.
-/
import Mathlib.Data.List.Nodup
import TestCoverage.Environment
import TestCoverage.Proofs.Entries
import TestCoverage.Proofs.Text.Utf8

namespace TestCoverage

namespace Variables

/-! ## Names as bytes -/

/-- A name that is text is found by its bytes. -/
theorem get?_block (values : Variables) (name : String) :
    values.block.get? (Utf8.ofString name) = values.get? name :=
  Entries.get?_map_name Utf8.ofString_injective values name

/-- No other name is found. -/
theorem get?_block_of_not_text (values : Variables) {name : Bytes}
    (h : ∀ text, Utf8.ofString text ≠ name) : values.block.get? name = none := by
  apply Entries.get?_of_notMem
  rw [block, List.map_map, List.mem_map]
  rintro ⟨binding, -, heq⟩
  exact h binding.1 heq

/-- All names are text. -/
theorem named_block (values : Variables) : values.block.named = values := by
  rw [block, VariableBlock.named, List.filterMap_map]
  simp

end Variables

namespace Environment

/-! ## Environments as they are made -/

/-- The ways to make an environment. -/
inductive Origin where
  | nothing
  | instrumented (flags : String) (sysroot : Path) (prior : Option Bytes)

/-- The environment that is made. -/
def Origin.environment : Origin → Environment
  | .nothing => {}
  | .instrumented flags sysroot prior => .instrumented flags sysroot prior

/-- The variables that an environment sets. -/
def names (environment : Environment) : List String :=
  environment.bindings.map Prod.fst

/-- No environment sets a variable twice. -/
theorem Origin.nodup_names (origin : Origin) : origin.environment.names.Nodup := by
  cases origin with
  | nothing => exact List.nodup_nil
  | instrumented flags sysroot prior =>
    change [compilerFlags, libraryPath].Nodup
    decide

/-- The entries of a search path are separated by colons. -/
theorem ofString_colon : Utf8.ofString ":" = [listSeparator] := by
  decide

/-- An instrumented environment sets two variables. -/
theorem get?_instrumented (flags : String) (sysroot : Path) (prior : Option Bytes)
    (name : String) :
    (instrumented flags sysroot prior).get? name =
      if name = "RUSTFLAGS" then some (Utf8.ofString flags)
      else if name = "LD_LIBRARY_PATH" then
        some (prior.getD [] ++ Utf8.ofString ":" ++ sysroot.join (Utf8.ofString "lib"))
      else none := by
  rw [ofString_colon, List.append_assoc, List.singleton_append]
  simp only [eq_comm (a := name)]
  rfl

/-! ## Environments on top of inherited variables -/

theorem nodup_block {environment : Environment} (h : environment.names.Nodup) :
    (environment.bindings.block.map Prod.fst).Nodup := by
  have hnames : environment.bindings.block.map Prod.fst =
      environment.names.map Utf8.ofString := by
    rw [names, Variables.block, List.map_map, List.map_map]
    rfl
  rw [hnames]
  exact List.Nodup.map Utf8.ofString_injective h

section
variable {environment : Environment} (h : environment.names.Nodup) (inherited : VariableBlock)
include h

/-- A child has the values that are set for it, and for all other variables the values that it
    inherits. -/
theorem get?_applyTo (name : String) :
    (environment.applyTo inherited).get? (Utf8.ofString name) =
      (environment.get? name).or (inherited.get? (Utf8.ofString name)) := by
  rw [applyTo, Entries.get?_setAll (nodup_block h), Variables.get?_block]
  rfl

/-- A variable whose name is no text has the value that the child inherits. -/
theorem get?_applyTo_of_not_text {name : Bytes} (hname : ∀ text, Utf8.ofString text ≠ name) :
    (environment.applyTo inherited).get? name = inherited.get? name := by
  rw [applyTo, Entries.get?_setAll (nodup_block h), Variables.get?_block_of_not_text _ hname,
    Option.none_or]

end

end Environment

end TestCoverage
