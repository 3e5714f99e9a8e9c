/-
  TestCoverage.Proofs.CoverageRun.Places

  What stands at each place of a run: first the question for the compiler's directory, then
  the question for the workspace, then the build, and collections from there on.
-/
import TestCoverage.Proofs.CoverageRun.Course

namespace TestCoverage.CoverageRun

/-- The calls that can stand at a place, when the first call has had the given response. -/
inductive StandsAt (settings : Settings) (prior : Option Bytes) (arguments : List Bytes)
    (first : Response) : Nat → Call → Prop where
  | sysroot : StandsAt settings prior arguments first 0 ⟨.capture, sysrootCommand settings⟩
  | workspace : StandsAt settings prior arguments first 1 ⟨.capture, workspaceCommand settings⟩
  | build {sysroot : Path} (hsysroot : Sysroot first sysroot) :
      StandsAt settings prior arguments first 2
        ⟨.capture, buildCommand settings prior arguments sysroot⟩
  | collect {sysroot directory file : Path} {i : Nat} (hsysroot : Sysroot first sysroot) :
      StandsAt settings prior arguments first (i + 3)
        ⟨.run, collectCommand settings prior sysroot directory file⟩

section
variable {settings : Settings} {prior : Option Bytes} {arguments : List Bytes}
  {responses : List Response}

/-- The first three calls are for their output. -/
theorem StandsAt.captured {first : Response} {place : Nat} {call : Call}
    (h : StandsAt settings prior arguments first place call) (hplace : place < 3) :
    call.purpose = .capture := by
  cases h with
  | sysroot => rfl
  | workspace => rfl
  | build => rfl
  | collect => omega

/-- The build has the arguments of the run behind its own. -/
theorem StandsAt.builds {first : Response} {call : Call}
    (h : StandsAt settings prior arguments first 2 call) :
    call.command.program = settings.tools.cargo ∧ call.command.arguments =
      ["test", "--no-run", "--message-format=json"].map Utf8.ofString ++ arguments := by
  cases h with
  | build => exact ⟨rfl, rfl⟩

/-- All calls from the fourth on are collections. -/
theorem StandsAt.collects {first : Response} {i : Nat} {call : Call}
    (h : StandsAt settings prior arguments first (i + 3) call) :
    call.purpose = .run ∧ call.command.program = settings.tools.kcov := by
  cases h with
  | collect => exact ⟨rfl, rfl⟩

/-- The build and the collections have an instrumented environment, with the directory that the
    compiler has named. -/
theorem StandsAt.exists_sysroot {first : Response} {place : Nat} {call : Call}
    (h : StandsAt settings prior arguments first place call) (hplace : 2 ≤ place) :
    ∃ sysroot, Sysroot first sysroot ∧
      call.command.environment =
        .instrumented settings.coverage.rustflags sysroot prior := by
  cases h with
  | sysroot => omega
  | workspace => omega
  | build hsysroot => exact ⟨_, hsysroot, rfl⟩
  | collect hsysroot => exact ⟨_, hsysroot, rfl⟩

/-- A call of a run is one of those that can stand at its place. -/
theorem standsAt_of_getElem? {place : Nat} {call : Call}
    (h : ((run settings prior arguments).play responses).calls[place]? = some call) :
    StandsAt settings prior arguments (responseAt responses 0) place call := by
  cases course settings prior arguments responses with
  | noSysroot hfirst =>
    rw [play_run_of_no_sysroot hfirst] at h
    match place with
    | 0 => cases h; exact .sysroot
    | place + 1 => cases h
  | noDirectory hsysroot hsecond =>
    rw [play_run_of_no_directory hsysroot hsecond] at h
    match place with
    | 0 => cases h; exact .sysroot
    | 1 => cases h; exact .workspace
    | place + 2 => cases h
  | noFiles hsysroot htarget hthird =>
    rw [play_run_of_no_files hsysroot htarget hthird] at h
    match place with
    | 0 => cases h; exact .sysroot
    | 1 => cases h; exact .workspace
    | 2 => cases h; exact .build hsysroot
    | place + 3 => cases h
  | collection hsysroot htarget hfiles =>
    rw [play_run_of_files hsysroot htarget hfiles] at h
    match place with
    | 0 => cases h; exact .sysroot
    | 1 => cases h; exact .workspace
    | 2 => cases h; exact .build hsysroot
    | i + 3 =>
      -- behind the three questions there are only the collections
      obtain ⟨file, -, rfl, -⟩ := (collection_calls_getElem?_iff _).mp h
      exact .collect hsysroot

end
end TestCoverage.CoverageRun
