/-
  TestCoverage.Proofs.CoverageRun.KeepGoing

  A run that keeps going beside one that does not, with the same settings otherwise and the
  same responses.  Up to the first collection that fails they are one run.
-/
import TestCoverage.Proofs.CoverageRun.Course

namespace TestCoverage.CoverageRun

open Dialogue (Played)

/-- The settings with another policy. -/
def withPolicy (settings : Settings) (keepGoing : Bool) : Settings :=
  { settings with coverage := { settings.coverage with keepGoing } }

/-- What a run that ends with the first failure and a run that keeps going have in common
    when both get the same responses. -/
structure Refines (responses : List Response)
    (failFast keepGoing : Played (Except Failure Summary)) : Prop where
  /-- The run that keeps going begins with the calls of the other. -/
  calls_prefix : failFast.calls <+: keepGoing.calls
  /-- Both succeed with the same summary, or neither does. -/
  ok_iff : ∀ summary, failFast.result = .ok summary ↔ keepGoing.result = .ok summary
  /-- Runs that succeed make the same calls. -/
  calls_of_ok : ∀ summary, failFast.result = .ok summary → keepGoing.calls = failFast.calls
  /-- A run fails before the first collection, or a collection fails. -/
  early_or_collection : ∀ failure, failFast.result = .error failure →
    (∀ call ∈ failFast.calls, call.purpose = .capture) ∨
      ∃ place call error, failFast.calls[place]? = some call ∧ call.purpose = .run ∧
        (responseAt responses place).answer call.command = .error error
  /-- Before the first collection, both fail alike. -/
  of_early : ∀ failure, failFast.result = .error failure →
    (∀ call ∈ failFast.calls, call.purpose = .capture) →
      keepGoing.calls = failFast.calls ∧ keepGoing.result = .error failure
  /-- A collection that fails is the last call of the one run; the other goes on with the
      rest of the files, and the file that has failed is the first that it lists. -/
  of_collection : ∀ place call error, failFast.calls[place]? = some call →
    call.purpose = .run → (responseAt responses place).answer call.command = .error error →
      failFast.calls.length = place + 1 ∧ failFast.result = .error (.tool error) ∧
        ∃ files file others, Built (responseAt responses 2) files ∧
          call.command.arguments.getLast? = some file ∧
          keepGoing.calls.length = 3 + files.length ∧
          keepGoing.result = .error (.coverage (file :: others) files.length)

/-! ## One run with two ends -/

theorem refines_of_captures {responses : List Response} {failure : Failure}
    {calls : List Call} {unused : List Response}
    (hcaptures : ∀ call ∈ calls, call.purpose = .capture) :
    Refines responses ⟨.error failure, calls, unused⟩ ⟨.error failure, calls, unused⟩ where
  calls_prefix := List.prefix_rfl
  ok_iff _ := Iff.rfl
  calls_of_ok _ _ := rfl
  early_or_collection _ _ := .inl hcaptures
  of_early _ hfailure _ := ⟨rfl, hfailure⟩
  of_collection place call error hcall hrun _ := by
    have hcapture := hcaptures call (List.mem_of_getElem? hcall)
    rw [hrun] at hcapture
    cases hcapture

section
variable {responses : List Response} {questions : List Call} {command : Path → Command}
  (hquestions : questions.length = 3)
  (hcaptures : ∀ call ∈ questions, call.purpose = .capture)
include hquestions hcaptures

/-- The collections are the calls behind the three questions. -/
theorem collection_getElem?_of_run {files : List Path} {place : Nat} {call : Call}
    (hcall : (questions ++ collectionCalls command files)[place]? = some call)
    (hrun : call.purpose = .run) :
    ∃ i file, place = 3 + i ∧ files[i]? = some file ∧ call = ⟨.run, command file⟩ := by
  by_cases hplace : place < 3
  · rw [List.getElem?_append_left (by omega)] at hcall
    have hcapture := hcaptures call (List.mem_of_getElem? hcall)
    rw [hrun] at hcapture
    cases hcapture
  · rw [List.getElem?_append_right (by omega), collectionCalls, List.getElem?_map,
      Option.map_eq_some_iff] at hcall
    obtain ⟨file, hfile, rfl⟩ := hcall
    exact ⟨place - questions.length, file, by omega, hfile, rfl⟩

theorem refines_of_allSucceed {summary : Summary} {files : List Path}
    {unused : List Response} (hall : AllSucceed (responseAt responses) 3 files.length) :
    Refines responses
      ⟨.ok summary, questions ++ collectionCalls command files, unused⟩
      ⟨.ok summary, questions ++ collectionCalls command files, unused⟩ where
  calls_prefix := List.prefix_rfl
  ok_iff _ := Iff.rfl
  calls_of_ok _ _ := rfl
  early_or_collection failure hfailure := by cases hfailure
  of_early failure hfailure _ := by cases hfailure
  of_collection place call error hcall hrun hfails := by
    obtain ⟨i, file, rfl, hfile, rfl⟩ :=
      collection_getElem?_of_run hquestions hcaptures hcall hrun
    have hi : i < files.length := (List.getElem?_eq_some_iff.mp hfile).1
    exact absurd (hall i hi) ((Response.not_succeeds_iff _).mpr ⟨error, hfails⟩)

theorem refines_of_first_fails {before after others : List Path} {file : Path}
    {error : ToolError} {unused unused' : List Response}
    (hlast : ∀ file, (command file).arguments.getLast? = some file)
    (hfiles : Built (responseAt responses 2) (before ++ file :: after))
    (hbefore : AllSucceed (responseAt responses) 3 before.length)
    (hfails : (responseAt responses (3 + before.length)).answer (command file) =
      .error error) :
    Refines responses
      ⟨.error (.tool error), questions ++ collectionCalls command (before ++ [file]), unused⟩
      ⟨.error (.coverage (file :: others) (before ++ file :: after).length),
        questions ++ collectionCalls command (before ++ file :: after), unused'⟩ where
  calls_prefix := by
    refine ⟨collectionCalls command after, ?_⟩
    simp [collectionCalls]
  ok_iff summary := by simp
  calls_of_ok summary hsummary := by cases hsummary
  early_or_collection failure _ := by
    refine .inr ⟨3 + before.length, ⟨.run, command file⟩, error, ?_, rfl, hfails⟩
    simp [collectionCalls, hquestions]
  of_early failure _ hearly := by
    have hcapture := hearly ⟨.run, command file⟩ (by simp [collectionCalls])
    cases hcapture
  of_collection place call error' hcall hrun hfails' := by
    obtain ⟨i, other, rfl, hother, rfl⟩ :=
      collection_getElem?_of_run hquestions hcaptures hcall hrun
    have hi : i < (before ++ [file]).length := (List.getElem?_eq_some_iff.mp hother).1
    rw [List.length_append, List.length_singleton] at hi
    -- The collections before this one have succeeded, so it is the one that has failed.
    obtain rfl : i = before.length := by
      by_contra hne
      exact (Response.not_succeeds_iff _).mpr ⟨error', hfails'⟩ (hbefore i (by omega))
    obtain rfl : file = other := by simpa using hother
    obtain rfl : error = error' := by simpa [hfails] using hfails'
    refine ⟨?_, rfl, _, file, others, hfiles, hlast file, ?_, rfl⟩
    · simp [collectionCalls, hquestions]
      omega
    · simp [collectionCalls, hquestions]

end

/-! ## The two policies -/

/-- The collections under the two policies. -/
theorem refines_of_files {settings : Settings} {prior : Option Bytes} {arguments : List Bytes}
    {responses : List Response} {sysroot target : Path} {files : List Path}
    (hsysroot : Sysroot (responseAt responses 0) sysroot)
    (htarget : Target (responseAt responses 1) target)
    (hfiles : Built (responseAt responses 2) files) :
    Refines responses ((run (withPolicy settings false) prior arguments).play responses)
      ((run (withPolicy settings true) prior arguments).play responses) := by
  rw [play_run_of_files hsysroot htarget hfiles, play_run_of_files hsysroot htarget hfiles]
  dsimp only [withPolicy]
  rw [play_collection_keepGoing]
  have hthree : [Call.mk .capture (sysrootCommand settings),
      ⟨.capture, workspaceCommand settings⟩,
      ⟨.capture, buildCommand settings prior arguments sysroot⟩].length = 3 := rfl
  rcases allSucceed_or_first_fails (responseAt responses) 3 files with
    hall | ⟨before, file, after, rfl, hbefore, hfails⟩
  · rw [play_collection_of_allSucceed _ hall, (failedFiles_eq_nil_iff ..).mpr hall]
    exact refines_of_allSucceed hthree (by simp) hall
  · obtain ⟨error, herror⟩ := (Response.not_succeeds_iff (collectCommand settings prior sysroot
      (target.join (Utf8.ofString settings.coverage.outputSubdir)) file)).mp hfails
    rw [play_collection_of_first_fails _ hbefore herror,
      failedFiles_of_first_fails hbefore hfails]
    exact refines_of_first_fails hthree (by simp) (fun _ => rfl) hfiles hbefore herror

/-- Keeping going changes nothing before the first collection that fails; there, the one run
    ends and the other goes on. -/
theorem keepGoing_refines_failFast (settings : Settings) (prior : Option Bytes)
    (arguments : List Bytes) (responses : List Response) :
    Refines responses ((run (withPolicy settings false) prior arguments).play responses)
      ((run (withPolicy settings true) prior arguments).play responses) := by
  -- The stages before the collection do not depend on the policy, so what is known of them
  -- for the one run holds for the other as it stands.
  cases course (withPolicy settings false) prior arguments responses with
  | noSysroot h =>
    have hkeep : (run (withPolicy settings true) prior arguments).play responses = _ :=
      play_run_of_no_sysroot h
    rw [play_run_of_no_sysroot h, hkeep]
    exact refines_of_captures (by simp)
  | noDirectory hsysroot h =>
    have hkeep : (run (withPolicy settings true) prior arguments).play responses = _ :=
      play_run_of_no_directory hsysroot h
    rw [play_run_of_no_directory hsysroot h, hkeep]
    exact refines_of_captures (by simp)
  | noFiles hsysroot htarget h =>
    have hkeep : (run (withPolicy settings true) prior arguments).play responses = _ :=
      play_run_of_no_files hsysroot htarget h
    rw [play_run_of_no_files hsysroot htarget h, hkeep]
    exact refines_of_captures (by simp)
  | collection hsysroot htarget hfiles =>
    exact refines_of_files hsysroot htarget hfiles

end TestCoverage.CoverageRun
