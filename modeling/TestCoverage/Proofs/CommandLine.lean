/-
  TestCoverage.Proofs.CommandLine

  The whole program on any host.  Its exit code and all that it writes follow from the
  settings and from what becomes of the calls that it makes.
-/
import TestCoverage.CommandLine
import TestCoverage.Proofs.CoverageRun.Shown
import TestCoverage.Proofs.Settings.Refusal

namespace TestCoverage.CommandLine

open Dialogue (Console Host)

/-- What the program leaves behind when these are its calls and what becomes of them. -/
inductive Leaves (surroundings : Surroundings) (arguments : List Bytes) :
    List Event → Exit → Prop where
  /-- A variable is no text: the program stops on the spot. -/
  | stopped {bytes : Bytes} (htext : ¬ Settings.IsText surroundings.bindings)
      (hload : Settings.load surroundings (some surroundings.directory) =
        .error (.notText bytes)) :
      Leaves surroundings arguments [] { code := 101, console := {} }
  /-- The settings cannot be used: no program is called, and only the report is written. -/
  | refused {error : SettingsError}
      (hload : Settings.load surroundings (some surroundings.directory) = .error error)
      (htext : ∀ bytes, error ≠ .notText bytes) :
      Leaves surroundings arguments [] {
        code := 1
        console := {
          output := []
          errors := asLine (Report.render "Failed to load configuration" [error.message]) } }
  /-- The run succeeds. -/
  | succeeded {settings : Settings} {summary : Summary} {events : List Event}
      {console : Console}
      (hload : Settings.load surroundings (some surroundings.directory) = .ok settings)
      (hplay : (CoverageRun.run settings
        (surroundings.bindings.get? (Utf8.ofString "LD_LIBRARY_PATH")) arguments).play
          (events.map Event.response) = ⟨.ok summary, events.map Event.call, []⟩)
      (hserves : CoverageRun.Serves settings arguments events)
      (hshows : CoverageRun.Shows settings events console) :
      Leaves surroundings arguments events { code := 0, console }
  /-- The run fails, and the report is the last thing that is written. -/
  | failed {settings : Settings} {failure : Failure} {events : List Event} {console : Console}
      (hload : Settings.load surroundings (some surroundings.directory) = .ok settings)
      (hplay : (CoverageRun.run settings
        (surroundings.bindings.get? (Utf8.ofString "LD_LIBRARY_PATH")) arguments).play
          (events.map Event.response) = ⟨.error failure, events.map Event.call, []⟩)
      (hserves : CoverageRun.Serves settings arguments events)
      (hshows : CoverageRun.Shows settings events console) :
      Leaves surroundings arguments events {
        code := 1
        console := {
          output := console.output
          errors := console.errors ++ asLine (Report.render failure.message failure.causes) } }

/-! ## The end of the program -/

/-- The report stands behind all that has been written. -/
theorem failed_eq (console : Console) (message : String) (causes : List String) :
    failed console message causes = {
      code := 1
      console := {
        output := console.output
        errors := console.errors ++ asLine (Report.render message causes) } } := by
  simp [failed, Console.append, Console.line, asLine]

/-- Unless it is a variable that stops the program, only the report is written. -/
theorem refused_eq {error : SettingsError} (h : ∀ bytes, error ≠ .notText bytes) :
    refused error = {
      code := 1
      console := {
        output := []
        errors := asLine (Report.render "Failed to load configuration" [error.message]) } } := by
  cases error with
  | notText bytes => exact absurd rfl (h bytes)
  | unreadable | mistyped => simp only [refused, failed_eq, List.nil_append]

/-- What the program makes of a run's result and of what the run has written. -/
def concluded (result : Except Failure Summary) (console : Console) : Exit :=
  match result with
  | .ok _ => ⟨0, console⟩
  | .error failure => failed console failure.message failure.causes

section
variable {surroundings : Surroundings} {σ : Type} (host : Host σ) (arguments : List Bytes)
  (state : σ)

/-- The program is the loading of the settings, and then the run. -/
theorem run_eq :
    run surroundings host arguments state =
      match Settings.load surroundings (some surroundings.directory) with
      | .error error => (refused error, state)
      | .ok settings =>
        let prior := surroundings.bindings.get? (Utf8.ofString "LD_LIBRARY_PATH")
        let performed := (CoverageRun.run settings prior arguments).run.perform host state
        (concluded performed.1 performed.2.1, performed.2.2) := by
  -- opened without its arguments: with them, the kernel would load the settings
  conv_lhs => fun; fun; fun; fun; fun; delta run
  generalize Settings.load surroundings (some surroundings.directory) = loaded
  cases loaded with
  | error error => rfl
  | ok settings =>
    dsimp only [Environment.libraryPath]
    generalize Dialogue.perform host _ state = performed
    obtain ⟨_ | summary, console, last⟩ := performed <;> rfl

/-- With settings that cannot be used, the program leaves their report, if it comes to it. -/
theorem leaves_of_refused {error : SettingsError}
    (hload : Settings.load surroundings (some surroundings.directory) = .error error) :
    Leaves surroundings arguments [] (refused error) := by
  by_cases htext : ∃ bytes, error = .notText bytes
  · obtain ⟨bytes, rfl⟩ := htext
    exact .stopped (Settings.exists_load_eq_notText_iff.mp ⟨bytes, hload⟩).2.2 hload
  · rw [not_exists] at htext
    rw [refused_eq htext]
    exact .refused hload htext

/-- With settings that can be used, the program leaves what its run leaves. -/
theorem leaves_of_load {settings : Settings}
    (hload : Settings.load surroundings (some surroundings.directory) = .ok settings) :
    let prior := surroundings.bindings.get? (Utf8.ofString "LD_LIBRARY_PATH")
    let routine := (CoverageRun.run settings prior arguments).run
    Leaves surroundings arguments (routine.events host state)
      (concluded (routine.perform host state).1 (routine.perform host state).2.1) := by
  intro prior routine
  have hserves : CoverageRun.Serves settings arguments (routine.events host state) :=
    CoverageRun.serves_events settings prior arguments host state
  have hshows : CoverageRun.Shows settings (routine.events host state)
      (routine.perform host state).2.1 :=
    CoverageRun.shows_run settings prior arguments host state
  have hplay := Dialogue.play_events host routine state
  cases hresult : (routine.perform host state).1 with
  | error failure =>
    rw [hresult] at hplay
    rw [concluded, failed_eq]
    exact .failed hload hplay hserves hshows
  | ok summary =>
    rw [hresult] at hplay
    exact .succeeded hload hplay hserves hshows

end

/-- Whatever the host makes of the calls, the program asks it for these calls, and leaves
    what follows from them. -/
theorem run_leaves (surroundings : Surroundings) {σ : Type} (host : Host σ)
    (arguments : List Bytes) (state : σ) :
    ∃ events, Answers host state events (run surroundings host arguments state).2 ∧
      Leaves surroundings arguments events (run surroundings host arguments state).1 := by
  rw [run_eq]
  generalize hload : Settings.load surroundings (some surroundings.directory) = loaded
  cases loaded with
  | error error => exact ⟨[], .nil state, leaves_of_refused arguments hload⟩
  | ok settings =>
    exact ⟨_, Dialogue.answers_events host _ state, leaves_of_load host arguments state hload⟩

end TestCoverage.CommandLine
