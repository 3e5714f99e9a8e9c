/-
  TestCoverage.Proofs.CoverageRun.Outcome

  How a run ends.  It succeeds if every call of the plan is successful and every response is
  understood; otherwise its failure is that of the first step that went wrong, and no call
  follows that step.
-/
import TestCoverage.Proofs.CoverageRun.Calls

namespace TestCoverage.CoverageRun

open Text (AllBlank)

/-- The number of calls after which a run ends, and its result. -/
inductive Ends (settings : Settings) (prior : Option Bytes) (arguments : List Bytes)
    (reply : Nat → Response) : Nat → Except Failure Summary → Prop where
  /-- A call fails, and it is not the call for one file of a run that keeps going. -/
  | failedCall {place : Nat} {call : Call} {error : ToolError}
      (hplanned : Planned settings prior arguments reply place call)
      (hfails : (reply place).answer call.command = .error error)
      (hends : place < 3 ∨ settings.coverage.keepGoing = false) :
      Ends settings prior arguments reply (place + 1) (.error (.tool error))
  /-- The compiler says nothing about its directory. -/
  | blankSysroot {text : List Char} (hresponse : reply 0 = .output text)
      (hblank : AllBlank text) :
      Ends settings prior arguments reply 1 (.error (.tool (.noOutput settings.tools.rustc)))
  /-- The target directory is not known. -/
  | noTarget {sysroot : Path} {text : List Char} {error : WorkspaceError}
      (hsysroot : Sysroot (reply 0) sysroot) (hresponse : reply 1 = .output text)
      (herror : NoTarget text error) :
      Ends settings prior arguments reply 2 (.error (.workspace error))
  /-- A message of the build cannot be read. -/
  | badMessage {sysroot target : Path} {text : List Char} {error : Artifact.LineError}
      (hsysroot : Sysroot (reply 0) sysroot) (htarget : Target (reply 1) target)
      (hresponse : reply 2 = .output text) (herror : BadMessage text error) :
      Ends settings prior arguments reply 3 (.error (.artifact error))
  /-- A run that keeps going has come to its end, and some files have failed. -/
  | failedFiles {sysroot target : Path} {files : List Path}
      (hsysroot : Sysroot (reply 0) sysroot) (htarget : Target (reply 1) target)
      (hfiles : Built (reply 2) files) (hgoes : settings.coverage.keepGoing = true)
      (hfailed : failedFiles reply 3 files ≠ []) :
      Ends settings prior arguments reply (files.length + 3)
        (.error (.coverage (CoverageRun.failedFiles reply 3 files) files.length))
  /-- Every file has been collected. -/
  | succeeded {sysroot target : Path} {files : List Path}
      (hsysroot : Sysroot (reply 0) sysroot) (htarget : Target (reply 1) target)
      (hfiles : Built (reply 2) files)
      (hsucceed : ∀ i < files.length, (reply (i + 3)).Succeeds) :
      Ends settings prior arguments reply (files.length + 3)
        (.ok ⟨target.join (Utf8.ofString settings.coverage.outputSubdir), files⟩)

section
variable {settings : Settings} {prior : Option Bytes} {arguments : List Bytes}
  {responses : List Response}

/-- The calls of the collection stand behind three others. -/
theorem allSucceed_three_iff {reply : Nat → Response} {count : Nat} :
    AllSucceed reply 3 count ↔ ∀ i < count, (reply (i + 3)).Succeeds := by
  simp only [AllSucceed, Nat.add_comm 3]

/-! ## Every run ends so -/

/-- The collection of the files ends so. -/
theorem ends_of_files {sysroot target : Path} {files : List Path}
    (hsysroot : Sysroot (responseAt responses 0) sysroot)
    (htarget : Target (responseAt responses 1) target)
    (hfiles : Built (responseAt responses 2) files) :
    Ends settings prior arguments (responseAt responses)
      ((run settings prior arguments).play responses).calls.length
      ((run settings prior arguments).play responses).result := by
  rw [play_run_of_files hsysroot htarget hfiles]
  simp only [List.length_cons]
  cases hgoes : settings.coverage.keepGoing with
  | true =>
    -- Every file has its call, and the failures are known only afterwards.
    rw [play_collection_keepGoing]
    simp only [collectionCalls, List.length_map]
    by_cases hfailed : failedFiles (responseAt responses) 3 files = []
    · rw [hfailed]
      exact .succeeded hsysroot htarget hfiles
        (allSucceed_three_iff.mp ((failedFiles_eq_nil_iff ..).mp hfailed))
    · rw [conclude, if_neg (by simpa using hfailed)]
      exact .failedFiles hsysroot htarget hfiles hgoes hfailed
  | false =>
    -- The collection ends with the first call that fails, if there is one.
    rcases allSucceed_or_first_fails (responseAt responses) 3 files with
      hall | ⟨before, file, after, rfl, hbefore, hfails⟩
    · rw [play_collection_of_allSucceed _ hall]
      simp only [collectionCalls, List.length_map]
      exact .succeeded hsysroot htarget hfiles (allSucceed_three_iff.mp hall)
    · obtain ⟨error, herror⟩ := (Response.not_succeeds_iff (collectCommand settings prior sysroot
        (target.join (Utf8.ofString settings.coverage.outputSubdir)) file)).mp hfails
      rw [play_collection_of_first_fails _ hbefore herror]
      simp only [collectionCalls, List.length_map, List.length_append, List.length_singleton]
      have hplanned : Planned settings prior arguments (responseAt responses) (before.length + 3)
          ⟨.run, collectCommand settings prior sysroot
            (target.join (Utf8.ofString settings.coverage.outputSubdir)) file⟩ :=
        planned_collect_iff.mpr
          ⟨sysroot, target, _, hsysroot, htarget, hfiles, file, by simp, rfl, .inr hbefore⟩
      rw [Nat.add_comm 3] at herror
      exact .failedCall hplanned herror (.inr hgoes)

theorem ends_run :
    Ends settings prior arguments (responseAt responses)
      ((run settings prior arguments).play responses).calls.length
      ((run settings prior arguments).play responses).result := by
  cases course settings prior arguments responses with
  | noSysroot h =>
    rw [play_run_of_no_sysroot h]
    rcases answered_eq_error_iff.mp h with ⟨error, herror, rfl⟩ | ⟨text, hresponse, hread⟩
    · exact .failedCall .sysroot herror (.inl (by simp))
    · obtain ⟨hblank, rfl⟩ := readSysroot_eq_error_iff.mp hread
      exact .blankSysroot hresponse hblank
  | noDirectory hsysroot h =>
    rw [play_run_of_no_directory hsysroot h]
    rcases answered_eq_error_iff.mp h with ⟨error, herror, rfl⟩ | ⟨text, hresponse, hread⟩
    · exact .failedCall (.workspace hsysroot) herror (.inl (by simp))
    · obtain ⟨error, herror, rfl⟩ := readDirectory_eq_error_iff.mp hread
      exact .noTarget hsysroot hresponse herror
  | noFiles hsysroot htarget h =>
    rw [play_run_of_no_files hsysroot htarget h]
    rcases answered_eq_error_iff.mp h with ⟨error, herror, rfl⟩ | ⟨text, hresponse, hread⟩
    · exact .failedCall (planned_two_iff.mpr ⟨_, hsysroot, ⟨_, htarget⟩, rfl⟩) herror
        (.inl (by simp))
    · obtain ⟨error, herror, rfl⟩ := readFiles_eq_error_iff.mp hread
      exact .badMessage hsysroot htarget hresponse herror
  | collection hsysroot htarget hfiles => exact ends_of_files hsysroot htarget hfiles

/-! ## No run ends otherwise -/

/-- A call that fails ends the run there. -/
theorem play_of_failedCall {place : Nat} {call : Call} {error : ToolError}
    (hplanned : Planned settings prior arguments (responseAt responses) place call)
    (hfails : (responseAt responses place).answer call.command = .error error)
    (hends : place < 3 ∨ settings.coverage.keepGoing = false) :
    ((run settings prior arguments).play responses).calls.length = place + 1 ∧
      ((run settings prior arguments).play responses).result = .error (.tool error) := by
  match place with
  | 0 =>
    obtain rfl := planned_zero_iff.mp hplanned
    rw [play_run_of_no_sysroot (answered_eq_error_iff.mpr (.inl ⟨error, hfails, rfl⟩))]
    exact ⟨rfl, rfl⟩
  | 1 =>
    obtain ⟨⟨sysroot, hsysroot⟩, rfl⟩ := planned_one_iff.mp hplanned
    rw [play_run_of_no_directory hsysroot
      (answered_eq_error_iff.mpr (.inl ⟨error, hfails, rfl⟩))]
    exact ⟨rfl, rfl⟩
  | 2 =>
    obtain ⟨sysroot, hsysroot, ⟨target, htarget⟩, rfl⟩ := planned_two_iff.mp hplanned
    rw [play_run_of_no_files hsysroot htarget
      (answered_eq_error_iff.mpr (.inl ⟨error, hfails, rfl⟩))]
    exact ⟨rfl, rfl⟩
  | i + 3 =>
    -- A collection: the plan has come so far only because all before it succeeded.
    have hgoes : settings.coverage.keepGoing = false := hends.resolve_left (by omega)
    obtain ⟨sysroot, target, files, hsysroot, htarget, hfiles, file, hfile, rfl, hbefore⟩ :=
      planned_collect_iff.mp hplanned
    have hbefore := hbefore.resolve_left (by simp [hgoes])
    obtain ⟨before, after, rfl, rfl⟩ := exists_append_of_getElem? hfile
    rw [Nat.add_comm] at hfails
    rw [play_run_of_files hsysroot htarget hfiles, hgoes]
    dsimp only at hfails ⊢
    rw [play_collection_of_first_fails _ hbefore hfails]
    simp [collectionCalls, conclude]

theorem play_of_blankSysroot {text : List Char}
    (hresponse : responseAt responses 0 = .output text) (hblank : AllBlank text) :
    (run settings prior arguments).play responses =
      ⟨.error (.tool (.noOutput settings.tools.rustc)),
        [⟨.capture, sysrootCommand settings⟩], responses.drop 1⟩ := by
  refine play_run_of_no_sysroot (answered_eq_error_iff.mpr (.inr ⟨text, hresponse, ?_⟩))
  exact readSysroot_eq_error_iff.mpr ⟨hblank, rfl⟩

theorem play_of_noTarget {sysroot : Path} {text : List Char} {error : WorkspaceError}
    (hsysroot : Sysroot (responseAt responses 0) sysroot)
    (hresponse : responseAt responses 1 = .output text) (herror : NoTarget text error) :
    (run settings prior arguments).play responses =
      ⟨.error (.workspace error),
        [⟨.capture, sysrootCommand settings⟩, ⟨.capture, workspaceCommand settings⟩],
        responses.drop 2⟩ := by
  refine play_run_of_no_directory hsysroot
    (answered_eq_error_iff.mpr (.inr ⟨text, hresponse, ?_⟩))
  exact readDirectory_eq_error_iff.mpr ⟨error, herror, rfl⟩

theorem play_of_badMessage {sysroot target : Path} {text : List Char}
    {error : Artifact.LineError} (hsysroot : Sysroot (responseAt responses 0) sysroot)
    (htarget : Target (responseAt responses 1) target)
    (hresponse : responseAt responses 2 = .output text) (herror : BadMessage text error) :
    (run settings prior arguments).play responses =
      ⟨.error (.artifact error),
        [⟨.capture, sysrootCommand settings⟩, ⟨.capture, workspaceCommand settings⟩,
          ⟨.capture, buildCommand settings prior arguments sysroot⟩],
        responses.drop 3⟩ := by
  refine play_run_of_no_files hsysroot htarget
    (answered_eq_error_iff.mpr (.inr ⟨text, hresponse, ?_⟩))
  exact readFiles_eq_error_iff.mpr ⟨error, herror, rfl⟩

/-- Once every file has been collected, each has had a call. -/
theorem play_of_succeeded {sysroot target : Path} {files : List Path}
    (hsysroot : Sysroot (responseAt responses 0) sysroot)
    (htarget : Target (responseAt responses 1) target)
    (hfiles : Built (responseAt responses 2) files)
    (hsucceed : ∀ i < files.length, (responseAt responses (i + 3)).Succeeds) :
    (run settings prior arguments).play responses =
      let directory := target.join (Utf8.ofString settings.coverage.outputSubdir)
      ⟨.ok ⟨directory, files⟩,
        ⟨.capture, sysrootCommand settings⟩ :: ⟨.capture, workspaceCommand settings⟩ ::
          ⟨.capture, buildCommand settings prior arguments sysroot⟩ ::
            collectionCalls (collectCommand settings prior sysroot directory) files,
        (responses.drop 3).drop files.length⟩ := by
  rw [play_run_of_files hsysroot htarget hfiles]
  dsimp only
  rw [play_collection_of_allSucceed _ (allSucceed_three_iff.mpr hsucceed)]
  simp [conclude]

/-- The ways for a run to end exclude each other. -/
theorem play_of_ends {count : Nat} {result : Except Failure Summary}
    (h : Ends settings prior arguments (responseAt responses) count result) :
    ((run settings prior arguments).play responses).calls.length = count ∧
      ((run settings prior arguments).play responses).result = result := by
  cases h with
  | failedCall hplanned hfails hends => exact play_of_failedCall hplanned hfails hends
  | blankSysroot hresponse hblank =>
    rw [play_of_blankSysroot hresponse hblank]
    exact ⟨rfl, rfl⟩
  | noTarget hsysroot hresponse herror =>
    rw [play_of_noTarget hsysroot hresponse herror]
    exact ⟨rfl, rfl⟩
  | badMessage hsysroot htarget hresponse herror =>
    rw [play_of_badMessage hsysroot htarget hresponse herror]
    exact ⟨rfl, rfl⟩
  | failedFiles hsysroot htarget hfiles hgoes hfailed =>
    rw [play_run_of_files hsysroot htarget hfiles, hgoes]
    dsimp only
    rw [play_collection_keepGoing]
    simp [collectionCalls, conclude, hfailed]
  | succeeded hsysroot htarget hfiles hsucceed =>
    rw [play_of_succeeded hsysroot htarget hfiles hsucceed]
    simp [collectionCalls]

end

/-! ## The outcome -/

/-- A run makes that many calls and has that result exactly if it ends so.  The files and the
    directory of a summary are those that the collections were called with, and no file is
    collected if a message of the build cannot be read. -/
theorem outcome_iff_ends (settings : Settings) (prior : Option Bytes)
    (arguments : List Bytes) (responses : List Response) :
    let played := (run settings prior arguments).play responses
    (∀ count result,
      played.calls.length = count ∧ played.result = result ↔
        Ends settings prior arguments (responseAt responses) count result) ∧
    (∀ summary, played.result = .ok summary →
      ∃ sysroot, Sysroot (responseAt responses 0) sysroot ∧
        played.calls.drop 3 = summary.files.map fun file => {
          purpose := .run
          command := {
            program := settings.tools.kcov
            arguments :=
              [Utf8.ofString ("--exclude-pattern=" ++ settings.coverage.excludePattern),
                summary.directory, file]
            environment := childEnvironment settings prior sysroot } }) ∧
    ∀ error, played.result = .error (.artifact error) →
      ∀ call ∈ played.calls, call.purpose = .capture := by
  intro played
  have hends : Ends settings prior arguments (responseAt responses) played.calls.length
      played.result := ends_run
  refine ⟨fun count result => ⟨?_, play_of_ends⟩, fun summary hsummary => ?_,
    fun error herror => ?_⟩
  · rintro ⟨rfl, rfl⟩
    exact hends
  · rw [hsummary] at hends
    generalize played.calls.length = count at hends
    cases hends with
    | succeeded hsysroot htarget hfiles hsucceed =>
      refine ⟨_, hsysroot, ?_⟩
      rw [childEnvironment_eq]
      exact congrArg (·.calls.drop 3) (play_of_succeeded hsysroot htarget hfiles hsucceed)
  · rw [herror] at hends
    generalize played.calls.length = count at hends
    cases hends with
    | badMessage hsysroot htarget hresponse hbad =>
      simp only [played, play_of_badMessage hsysroot htarget hresponse hbad]
      simp

end TestCoverage.CoverageRun
