/-
  TestCoverage.Proofs.CoverageRun.Course

  The course of a run: it ends in one of the three stages before the collection, or comes to
  the collection and ends with that.
-/
import TestCoverage.Proofs.CoverageRun.Collection
import TestCoverage.Proofs.CoverageRun.Stages

namespace TestCoverage.CoverageRun

section

variable (settings : Settings) (prior : Option Bytes) (arguments : List Bytes)

/-- The question for the compiler's directory. -/
abbrev sysrootCommand : Command :=
  Toolchain.sysrootCommand settings.tools.rustc

/-- The question for the workspace. -/
abbrev workspaceCommand : Command :=
  Toolchain.workspaceCommand settings.tools.cargo

/-- The build of the tests. -/
abbrev buildCommand (sysroot : Path) : Command :=
  Toolchain.buildCommand settings.tools.cargo arguments
    (.instrumented settings.coverage.rustflags sysroot prior)

/-- The collection of a file's coverage. -/
abbrev collectCommand (sysroot directory file : Path) : Command :=
  Toolchain.collectCommand settings.tools.kcov settings.coverage.excludePattern directory file
    (.instrumented settings.coverage.rustflags sysroot prior)

/-- The collection of all files, with the end of the run. -/
def collectFiles (sysroot directory : Path) (files : List Path) : Routine Summary := do
  let failed ← collection (collectCommand settings prior sysroot directory)
    settings.coverage.keepGoing files
  if failed.isEmpty then return ⟨directory, files⟩
  else throw (.coverage failed files.length)

/-- A run is its stages in order. -/
theorem run_eq_stages :
    run settings prior arguments = (do
      let sysroot ← Toolchain.sysroot settings.tools.rustc
      let directory ← findDirectory settings.tools.cargo settings.coverage.outputSubdir
      Routine.note s!"[dbg] kcov_out = {Utf8.display directory}"
      let files ← Toolchain.testFiles settings.tools.cargo arguments
        (.instrumented settings.coverage.rustflags sysroot prior)
      collectFiles settings prior sysroot directory files) := by
  simp only [run, findDirectory, bind_assoc]
  rfl

/-- The result of a run from that of the collection. -/
def conclude (directory : Path) (files : List Path) :
    Except Failure (List Path) → Except Failure Summary
  | .error failure => .error failure
  | .ok failed =>
    if failed.isEmpty then .ok ⟨directory, files⟩ else .error (.coverage failed files.length)

variable {settings prior arguments} {responses : List Response}

theorem play_collectFiles (sysroot directory : Path) (files : List Path)
    (responses : List Response) :
    (collectFiles settings prior sysroot directory files).play responses =
      let collected := (collection (collectCommand settings prior sysroot directory)
        settings.coverage.keepGoing files).play responses
      ⟨conclude directory files collected.result, collected.calls, collected.unused⟩ := by
  rw [collectFiles, Routine.play_bind]
  generalize (collection (collectCommand settings prior sysroot directory)
    settings.coverage.keepGoing files).play responses = collected
  obtain ⟨result, calls, unused⟩ := collected
  cases result with
  | error failure => rfl
  | ok failed => cases failed <;> simp [conclude]

/-! ## The ways a run can go -/

/-- Without the compiler's directory, nothing else is asked. -/
theorem play_run_of_no_sysroot {failure : Failure}
    (h : answered (sysrootCommand settings) (responseAt responses 0)
      (readSysroot settings.tools.rustc) = .error failure) :
    (run settings prior arguments).play responses =
      ⟨.error failure, [⟨.capture, sysrootCommand settings⟩], responses.drop 1⟩ := by
  rw [run_eq_stages, Routine.play_bind, play_sysroot, h, Routine.continued_error]

/-- Without a directory for the output, nothing is built. -/
theorem play_run_of_no_directory {sysroot : Path} {failure : Failure}
    (hsysroot : Sysroot (responseAt responses 0) sysroot)
    (h : answered (workspaceCommand settings) (responseAt responses 1)
      (readDirectory settings.coverage.outputSubdir) = .error failure) :
    (run settings prior arguments).play responses =
      ⟨.error failure,
        [⟨.capture, sysrootCommand settings⟩, ⟨.capture, workspaceCommand settings⟩],
        responses.drop 2⟩ := by
  rw [run_eq_stages, Routine.play_bind, play_sysroot, (sysroot_iff _).mpr hsysroot,
    Routine.continued_ok]
  simp only [Routine.play_bind, play_findDirectory, responseAt_drop, List.drop_drop,
    Nat.reduceAdd, h, Routine.continued_error, List.singleton_append]

/-- What follows once there is a directory for the output. -/
theorem play_run_of_target {sysroot target : Path}
    (hsysroot : Sysroot (responseAt responses 0) sysroot)
    (htarget : Target (responseAt responses 1) target) :
    (run settings prior arguments).play responses =
      Routine.continued
        ⟨answered (buildCommand settings prior arguments sysroot) (responseAt responses 2)
          readFiles,
          [⟨.capture, sysrootCommand settings⟩, ⟨.capture, workspaceCommand settings⟩,
            ⟨.capture, buildCommand settings prior arguments sysroot⟩],
          responses.drop 3⟩
        (collectFiles settings prior sysroot
          (target.join (Utf8.ofString settings.coverage.outputSubdir))) := by
  have hdirectory := (directory_iff settings.tools.cargo settings.coverage.outputSubdir).mpr
    ⟨target, htarget, rfl⟩
  rw [run_eq_stages, Routine.play_bind, play_sysroot, (sysroot_iff _).mpr hsysroot,
    Routine.continued_ok]
  simp only [Routine.play_bind, play_findDirectory, Routine.play_note, play_testFiles,
    responseAt_drop, List.drop_drop, Nat.reduceAdd, hdirectory, Routine.continued_ok,
    List.nil_append]
  cases answered (buildCommand settings prior arguments sysroot) (responseAt responses 2)
    readFiles <;> rfl

/-- Without the files of a build, no coverage is collected. -/
theorem play_run_of_no_files {sysroot target : Path} {failure : Failure}
    (hsysroot : Sysroot (responseAt responses 0) sysroot)
    (htarget : Target (responseAt responses 1) target)
    (h : answered (buildCommand settings prior arguments sysroot) (responseAt responses 2)
      readFiles = .error failure) :
    (run settings prior arguments).play responses =
      ⟨.error failure,
        [⟨.capture, sysrootCommand settings⟩, ⟨.capture, workspaceCommand settings⟩,
          ⟨.capture, buildCommand settings prior arguments sysroot⟩],
        responses.drop 3⟩ := by
  rw [play_run_of_target hsysroot htarget, h, Routine.continued_error]

/-- With the files of a build, the run ends with their collection. -/
theorem play_run_of_files {sysroot target : Path} {files : List Path}
    (hsysroot : Sysroot (responseAt responses 0) sysroot)
    (htarget : Target (responseAt responses 1) target)
    (hfiles : Built (responseAt responses 2) files) :
    (run settings prior arguments).play responses =
      let directory := target.join (Utf8.ofString settings.coverage.outputSubdir)
      let collected := (collection (collectCommand settings prior sysroot directory)
        settings.coverage.keepGoing files).play (responses.drop 3)
      ⟨conclude directory files collected.result,
        ⟨.capture, sysrootCommand settings⟩ :: ⟨.capture, workspaceCommand settings⟩ ::
          ⟨.capture, buildCommand settings prior arguments sysroot⟩ :: collected.calls,
        collected.unused⟩ := by
  rw [play_run_of_target hsysroot htarget, (files_iff _).mpr hfiles, Routine.continued_ok,
    play_collectFiles]
  rfl

end

/-- A run ends in one of the stages before the collection, or comes to the collection. -/
inductive Course (settings : Settings) (prior : Option Bytes) (arguments : List Bytes)
    (responses : List Response) : Prop where
  | noSysroot {failure : Failure}
      (h : answered (sysrootCommand settings) (responseAt responses 0)
        (readSysroot settings.tools.rustc) = .error failure)
  | noDirectory {sysroot : Path} {failure : Failure}
      (hsysroot : Sysroot (responseAt responses 0) sysroot)
      (h : answered (workspaceCommand settings) (responseAt responses 1)
        (readDirectory settings.coverage.outputSubdir) = .error failure)
  | noFiles {sysroot target : Path} {failure : Failure}
      (hsysroot : Sysroot (responseAt responses 0) sysroot)
      (htarget : Target (responseAt responses 1) target)
      (h : answered (buildCommand settings prior arguments sysroot) (responseAt responses 2)
        readFiles = .error failure)
  | collection {sysroot target : Path} {files : List Path}
      (hsysroot : Sysroot (responseAt responses 0) sysroot)
      (htarget : Target (responseAt responses 1) target)
      (hfiles : Built (responseAt responses 2) files)

theorem course (settings : Settings) (prior : Option Bytes) (arguments : List Bytes)
    (responses : List Response) : Course settings prior arguments responses := by
  cases hfirst : answered (sysrootCommand settings) (responseAt responses 0)
      (readSysroot settings.tools.rustc) with
  | error failure => exact .noSysroot hfirst
  | ok sysroot =>
    have hsysroot := (sysroot_iff _).mp hfirst
    cases hsecond : answered (workspaceCommand settings) (responseAt responses 1)
        (readDirectory settings.coverage.outputSubdir) with
    | error failure => exact .noDirectory hsysroot hsecond
    | ok directory =>
      obtain ⟨target, htarget, -⟩ := (directory_iff _ _).mp hsecond
      cases hthird : answered (buildCommand settings prior arguments sysroot)
          (responseAt responses 2) readFiles with
      | error failure => exact .noFiles hsysroot htarget hthird
      | ok files => exact .collection hsysroot htarget ((files_iff _).mp hthird)

end TestCoverage.CoverageRun
