/-
  TestCoverage.Proofs.CoverageRun.Calls

  Which calls a run makes.  Each call has its place, and whether a run comes to that place
  depends on nothing but the responses to the calls before it.
-/
import TestCoverage.Proofs.Command
import TestCoverage.Proofs.CoverageRun.Course

namespace TestCoverage.CoverageRun

/-! ## The plan -/

/-- The variables of the build and of every collection. -/
def childEnvironment (settings : Settings) (prior : Option Bytes) (sysroot : Path) :
    Environment where
  bindings := [
    ("RUSTFLAGS", Utf8.ofString settings.coverage.rustflags),
    ("LD_LIBRARY_PATH", prior.getD [] ++ Utf8.ofString ":" ++ sysroot.join (Utf8.ofString "lib"))]

/-- The call that a run makes at a place when the earlier calls have had these responses. -/
inductive Planned (settings : Settings) (prior : Option Bytes) (arguments : List Bytes)
    (reply : Nat → Response) : Nat → Call → Prop where
  | sysroot :
      Planned settings prior arguments reply 0 {
        purpose := .capture
        command := {
          program := settings.tools.rustc
          arguments := ["--print", "sysroot"].map Utf8.ofString } }
  | workspace {sysroot : Path} (hsysroot : Sysroot (reply 0) sysroot) :
      Planned settings prior arguments reply 1 {
        purpose := .capture
        command := {
          program := settings.tools.cargo
          arguments := ["metadata", "--format-version=1"].map Utf8.ofString } }
  | build {sysroot target : Path} (hsysroot : Sysroot (reply 0) sysroot)
      (htarget : Target (reply 1) target) :
      Planned settings prior arguments reply 2 {
        purpose := .capture
        command := {
          program := settings.tools.cargo
          arguments :=
            ["test", "--no-run", "--message-format=json"].map Utf8.ofString ++ arguments
          environment := childEnvironment settings prior sysroot } }
  | collect {sysroot target : Path} {files : List Path} {i : Nat} {file : Path}
      (hsysroot : Sysroot (reply 0) sysroot) (htarget : Target (reply 1) target)
      (hfiles : Built (reply 2) files) (hfile : files[i]? = some file)
      (hgoes : settings.coverage.keepGoing = true ∨ ∀ j < i, (reply (j + 3)).Succeeds) :
      Planned settings prior arguments reply (i + 3) {
        purpose := .run
        command := {
          program := settings.tools.kcov
          arguments := [Utf8.ofString ("--exclude-pattern=" ++ settings.coverage.excludePattern),
            target.join (Utf8.ofString settings.coverage.outputSubdir), file]
          environment := childEnvironment settings prior sysroot } }

theorem childEnvironment_eq (settings : Settings) (prior : Option Bytes) (sysroot : Path) :
    childEnvironment settings prior sysroot =
      .instrumented settings.coverage.rustflags sysroot prior := by
  simp [childEnvironment, Environment.instrumented, Environment.compilerFlags,
    Environment.libraryPath, Environment.ofString_colon]

section
variable {settings : Settings} {prior : Option Bytes} {arguments : List Bytes}
  {reply : Nat → Response} {call : Call}

/-! ## The plan, place by place -/

theorem planned_zero_iff :
    Planned settings prior arguments reply 0 call ↔
      ⟨.capture, sysrootCommand settings⟩ = call := by
  constructor
  · rintro ⟨⟩
    rfl
  · rintro rfl
    exact .sysroot

theorem planned_one_iff :
    Planned settings prior arguments reply 1 call ↔
      (∃ sysroot, Sysroot (reply 0) sysroot) ∧
        ⟨.capture, workspaceCommand settings⟩ = call := by
  constructor
  · rintro ⟨⟩
    exact ⟨⟨_, ‹_›⟩, rfl⟩
  · rintro ⟨⟨sysroot, hsysroot⟩, rfl⟩
    exact .workspace hsysroot

theorem planned_two_iff :
    Planned settings prior arguments reply 2 call ↔
      ∃ sysroot, Sysroot (reply 0) sysroot ∧ (∃ target, Target (reply 1) target) ∧
        ⟨.capture, buildCommand settings prior arguments sysroot⟩ = call := by
  constructor
  · rintro ⟨⟩
    refine ⟨_, ‹_›, ⟨_, ‹_›⟩, ?_⟩
    rw [childEnvironment_eq]
    rfl
  · rintro ⟨sysroot, hsysroot, ⟨target, htarget⟩, rfl⟩
    rw [buildCommand, ← childEnvironment_eq]
    exact .build hsysroot htarget

theorem planned_collect_iff {i : Nat} :
    Planned settings prior arguments reply (i + 3) call ↔
      ∃ sysroot target files, Sysroot (reply 0) sysroot ∧ Target (reply 1) target ∧
        Built (reply 2) files ∧ ∃ file, files[i]? = some file ∧
          call = ⟨.run, collectCommand settings prior sysroot
            (target.join (Utf8.ofString settings.coverage.outputSubdir)) file⟩ ∧
          (settings.coverage.keepGoing = true ∨ AllSucceed reply 3 i) := by
  simp only [AllSucceed, Nat.add_comm 3]
  constructor
  · rintro ⟨⟩
    refine ⟨_, _, _, ‹_›, ‹_›, ‹_›, _, ‹_›, ?_, ‹_›⟩
    rw [childEnvironment_eq]
    rfl
  · rintro ⟨sysroot, target, files, hsysroot, htarget, hfiles, file, hfile, rfl, hgoes⟩
    rw [collectCommand, ← childEnvironment_eq]
    exact .collect hsysroot htarget hfiles hfile hgoes

end

/-! ## The calls of a run -/

/-- A run makes a call at a place exactly if the plan has it there, which depends on the
    responses to the calls before that place. -/
theorem calls_getElem?_iff_planned (settings : Settings) (prior : Option Bytes)
    (arguments : List Bytes) (responses : List Response) (place : Nat) (call : Call) :
    ((run settings prior arguments).play responses).calls[place]? = some call ↔
      Planned settings prior arguments (responseAt responses) place call := by
  have hcourse := course settings prior arguments responses
  match place with
  | 0 =>
    rw [planned_zero_iff]
    cases hcourse with
    | noSysroot h => simp [play_run_of_no_sysroot h]
    | noDirectory hsysroot h => simp [play_run_of_no_directory hsysroot h]
    | noFiles hsysroot htarget h => simp [play_run_of_no_files hsysroot htarget h]
    | collection hsysroot htarget hfiles => simp [play_run_of_files hsysroot htarget hfiles]
  | 1 =>
    rw [planned_one_iff]
    cases hcourse with
    | noSysroot h => simp [play_run_of_no_sysroot h, not_sysroot_of_error h]
    | noDirectory hsysroot h =>
      simp [play_run_of_no_directory hsysroot h, Exists.intro _ hsysroot]
    | noFiles hsysroot htarget h =>
      simp [play_run_of_no_files hsysroot htarget h, Exists.intro _ hsysroot]
    | collection hsysroot htarget hfiles =>
      simp [play_run_of_files hsysroot htarget hfiles, Exists.intro _ hsysroot]
  | 2 =>
    rw [planned_two_iff]
    cases hcourse with
    | noSysroot h => simp [play_run_of_no_sysroot h, not_sysroot_of_error h]
    | noDirectory hsysroot h =>
      simp [play_run_of_no_directory hsysroot h, not_target_of_error h]
    | noFiles hsysroot htarget h =>
      simp [play_run_of_no_files hsysroot htarget h, hsysroot.iff_eq, Exists.intro _ htarget]
    | collection hsysroot htarget hfiles =>
      simp [play_run_of_files hsysroot htarget hfiles, hsysroot.iff_eq,
        Exists.intro _ htarget]
  | i + 3 =>
    rw [planned_collect_iff]
    cases hcourse with
    | noSysroot h => simp [play_run_of_no_sysroot h, not_sysroot_of_error h]
    | noDirectory hsysroot h =>
      simp [play_run_of_no_directory hsysroot h, not_target_of_error h]
    | noFiles hsysroot htarget h =>
      simp [play_run_of_no_files hsysroot htarget h, not_built_of_error h]
    | collection hsysroot htarget hfiles =>
      simp only [play_run_of_files hsysroot htarget hfiles, List.getElem?_cons_succ,
        collection_calls_getElem?_iff, hsysroot.iff_eq, htarget.iff_eq, hfiles.iff_eq,
        exists_and_left, exists_eq_left]

end TestCoverage.CoverageRun
