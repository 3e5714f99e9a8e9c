/-
  TestCoverage.Proofs.CoverageRun.Shown

  What a run shows on a host: the output of the collections, and on the error output all of
  its calls in order, with one more line between the questions and the build, once the
  directory for the coverage output is known.
-/
import TestCoverage.Proofs.CoverageRun.Places
import TestCoverage.Proofs.Host

namespace TestCoverage.CoverageRun

open Dialogue (Console Host Played Quiet)

/-- The line that names the directory for the coverage output; there is none if the
    responses to the two questions do not tell it. -/
inductive DirectoryLine (settings : Settings) (reply : Nat → Response) : Bytes → Prop where
  | known {sysroot target : Path} (hsysroot : Sysroot (reply 0) sysroot)
      (htarget : Target (reply 1) target) :
      DirectoryLine settings reply (asLine s!"[dbg] kcov_out = {Utf8.display
        (target.join (Utf8.ofString settings.coverage.outputSubdir))}")
  | unknown
      (h : ¬ ∃ sysroot target, Sysroot (reply 0) sysroot ∧ Target (reply 1) target) :
      DirectoryLine settings reply []

/-- A run with these settings that makes these calls shows this. -/
structure Shows (settings : Settings) (events : List Event) (console : Console) : Prop where
  output : console.output = (events.drop 3).flatMap Event.output
  errors : ∃ line, DirectoryLine settings (responseAt (events.map Event.response)) line ∧
    console.errors =
      (events.take 2).flatMap Event.shown ++ line ++ (events.drop 2).flatMap Event.shown

/-- The calls of a run with these settings and arguments are for this: the first three for
    their output, with the arguments behind those of the build, and all others for the
    collections. -/
structure Serves (settings : Settings) (arguments : List Bytes) (events : List Event) :
    Prop where
  captured : ∀ event ∈ events.take 3, event.call.purpose = .capture
  build : ∀ event, events[2]? = some event →
    event.call.command.program = settings.tools.cargo ∧
    event.call.command.arguments =
      ["test", "--no-run", "--message-format=json"].map Utf8.ofString ++ arguments
  collected : ∀ event ∈ events.drop 3,
    event.call.purpose = .run ∧ event.call.command.program = settings.tools.kcov

/-! ## What calls come to -/

section
variable {settings : Settings} {arguments : List Bytes}

/-- The calls that are not captured are those behind the first three. -/
theorem Serves.filter_eq {events : List Event} (h : Serves settings arguments events) :
    (events.filter fun event => event.call.purpose = .run) = events.drop 3 := by
  have hcaptured : (events.take 3).filter (fun event => event.call.purpose = .run) = [] := by
    rw [List.filter_eq_nil_iff]
    intro event hevent
    simp [h.captured event hevent]
  have hcollected : (events.drop 3).filter (fun event => event.call.purpose = .run) =
      events.drop 3 := by
    rw [List.filter_eq_self]
    intro event hevent
    simp [(h.collected event hevent).1]
  conv_lhs => rw [← List.take_append_drop 3 events]
  rw [List.filter_append, hcaptured, hcollected, List.nil_append]

/-- A response to one of the first calls does not change when more calls follow. -/
theorem responseAt_append {events : List Event} {place : Nat} (h : place < events.length)
    (others : List Event) :
    responseAt ((events ++ others).map Event.response) place =
      responseAt (events.map Event.response) place := by
  have hplace : place < (events.map Event.response).length := by rwa [List.length_map]
  simp only [responseAt, List.getD_eq_getElem?_getD, List.map_append,
    List.getElem?_append_left hplace]

/-- Two calls at most that do not tell the directory show all that a run shows. -/
theorem Serves.shows_of_unknown {events : List Event} (h : Serves settings arguments events)
    (hlength : events.length ≤ 2)
    (hunknown : ¬ ∃ sysroot target,
      Sysroot (responseAt (events.map Event.response) 0) sysroot ∧
        Target (responseAt (events.map Event.response) 1) target) :
    Shows settings events (Console.ofEvents events) := by
  constructor
  · rw [← h.filter_eq]
    rfl
  · refine ⟨[], .unknown hunknown, ?_⟩
    rw [List.take_of_length_le hlength, List.drop_eq_nil_of_le hlength, List.append_nil,
      List.flatMap_nil, List.append_nil]
    rfl

/-- Two calls that tell the directory, the line for it, and the other calls show what a run
    shows. -/
theorem Serves.shows_of_known {asked others : List Event}
    (h : Serves settings arguments (asked ++ others)) (hlength : asked.length = 2)
    {sysroot target : Path}
    (hsysroot : Sysroot (responseAt (asked.map Event.response) 0) sysroot)
    (htarget : Target (responseAt (asked.map Event.response) 1) target) :
    Shows settings (asked ++ others)
      ((Console.ofEvents asked).append
        ((Console.line s!"[dbg] kcov_out = {Utf8.display
          (target.join (Utf8.ofString settings.coverage.outputSubdir))}").append
            (Console.ofEvents others))) := by
  constructor
  · rw [← h.filter_eq, List.filter_append, List.flatMap_append]
    rfl
  · have hsysroot' : Sysroot (responseAt ((asked ++ others).map Event.response) 0) sysroot := by
      rwa [responseAt_append (by omega)]
    have htarget' : Target (responseAt ((asked ++ others).map Event.response) 1) target := by
      rwa [responseAt_append (by omega)]
    refine ⟨_, .known hsysroot' htarget', ?_⟩
    rw [← hlength, List.take_left, List.drop_left, List.append_assoc]
    rfl

end

section
variable (settings : Settings) (prior : Option Bytes) (arguments : List Bytes)

/-! ## The questions and the rest -/

/-- The questions for the compiler's directory and for the directory for coverage output. -/
def questions : Routine (Path × Path) := do
  let sysroot ← Toolchain.sysroot settings.tools.rustc
  let directory ← findDirectory settings.tools.cargo settings.coverage.outputSubdir
  return (sysroot, directory)

/-- The build and the collections. -/
def buildAndCollect (sysroot directory : Path) : Routine Summary := do
  let files ← Toolchain.testFiles settings.tools.cargo arguments
    (.instrumented settings.coverage.rustflags sysroot prior)
  collectFiles settings prior sysroot directory files

/-- What follows the questions: the directory is told, and then the tests are built. -/
def afterQuestions (found : Path × Path) : Routine Summary := do
  Routine.note s!"[dbg] kcov_out = {Utf8.display found.2}"
  buildAndCollect settings prior arguments found.1 found.2

theorem run_eq_questions :
    run settings prior arguments =
      questions settings >>= afterQuestions settings prior arguments := by
  simp only [run_eq_stages, questions, afterQuestions, buildAndCollect, bind_assoc, pure_bind]

theorem quiet_questions : Quiet (questions settings).run := by
  have hsysroot : Quiet (Toolchain.sysroot settings.tools.rustc).run := by
    refine Routine.quiet_bind (Routine.quiet_capture _) fun answer => ?_
    split
    · exact Routine.quiet_throw _
    · exact Routine.quiet_pure _
  have hdirectory :
      Quiet (findDirectory settings.tools.cargo settings.coverage.outputSubdir).run := by
    refine Routine.quiet_bind ?_ fun workspace => Routine.quiet_ofExcept _ _
    exact Routine.quiet_bind (Routine.quiet_capture _) fun _ => Routine.quiet_ofExcept _ _
  exact Routine.quiet_bind hsysroot fun _ =>
    Routine.quiet_bind hdirectory fun _ => Routine.quiet_pure _

theorem quiet_collectAll {collect : Path → Routine Unit} (h : ∀ file, Quiet (collect file).run)
    (keepGoing : Bool) (files : List Path) : Quiet (collectAll collect keepGoing files).run := by
  induction files with
  | nil => exact Routine.quiet_pure _
  | cons file files ih =>
    refine Routine.quiet_bind (Routine.quiet_attempt (h file)) fun result => ?_
    cases result with
    | ok _ => exact ih
    | error failure =>
      cases keepGoing with
      | true => exact Routine.quiet_bind ih fun _ => Routine.quiet_pure _
      | false => exact Routine.quiet_throw _

theorem quiet_buildAndCollect (sysroot directory : Path) :
    Quiet (buildAndCollect settings prior arguments sysroot directory).run := by
  refine Routine.quiet_bind ?_ fun files => ?_
  · exact Routine.quiet_bind (Routine.quiet_capture _) fun _ => Routine.quiet_ofExcept _ _
  · refine Routine.quiet_bind (quiet_collectAll (fun _ => Routine.quiet_execute _) _ _) ?_
    intro failed
    split
    · exact Routine.quiet_pure _
    · exact Routine.quiet_throw _

/-- What the two questions come to, and after how many calls. -/
inductive Asked (responses : List Response) : Except Failure (Path × Path) → Nat → Prop where
  | known {sysroot target : Path} (hsysroot : Sysroot (responseAt responses 0) sysroot)
      (htarget : Target (responseAt responses 1) target) :
      Asked responses
        (.ok (sysroot, target.join (Utf8.ofString settings.coverage.outputSubdir))) 2
  | unknown {failure : Failure} {count : Nat} (hcount : count ≤ 2)
      (h : ¬ ∃ sysroot target, Sysroot (responseAt responses 0) sysroot ∧
        Target (responseAt responses 1) target) : Asked responses (.error failure) count

theorem asked_questions (responses : List Response) :
    Asked settings responses ((questions settings).play responses).result
      ((questions settings).play responses).calls.length := by
  rw [questions, Routine.play_bind, play_sysroot]
  cases hfirst : answered (sysrootCommand settings) (responseAt responses 0)
      (readSysroot settings.tools.rustc) with
  | error failure =>
    refine .unknown (by simp) ?_
    rintro ⟨sysroot, -, hsysroot, -⟩
    exact not_sysroot_of_error hfirst sysroot hsysroot
  | ok sysroot =>
    rw [Routine.continued_ok, Routine.play_bind, play_findDirectory, responseAt_drop]
    cases hsecond : answered (workspaceCommand settings) (responseAt responses 1)
        (readDirectory settings.coverage.outputSubdir) with
    | error failure =>
      refine .unknown (by simp) ?_
      rintro ⟨-, target, -, htarget⟩
      exact not_target_of_error hsecond target htarget
    | ok directory =>
      obtain ⟨target, htarget, rfl⟩ := (directory_iff _ _).mp hsecond
      exact .known ((sysroot_iff _).mp hfirst) htarget

/-! ## On a host -/

variable {σ : Type} (host : Host σ) (state : σ)

/-- The first three calls of a run are captured, and all others are for the collections. -/
theorem serves_events :
    Serves settings arguments ((run settings prior arguments).run.events host state) := by
  have hplay := Dialogue.play_events host (run settings prior arguments).run state
  generalize (run settings prior arguments).run.events host state = events at hplay ⊢
  have hstands {place : Nat} {event : Event} (hevent : events[place]? = some event) :
      StandsAt settings prior arguments (responseAt (events.map Event.response) 0) place
        event.call := by
    apply standsAt_of_getElem?
    rw [Routine.play, hplay, List.getElem?_map, hevent]
    rfl
  constructor
  · intro event hmem
    obtain ⟨place, hplace⟩ := List.mem_iff_getElem?.mp hmem
    rw [List.getElem?_take, Option.ite_none_right_eq_some] at hplace
    exact (hstands hplace.2).captured hplace.1
  · intro event hevent
    exact (hstands hevent).builds
  · intro event hmem
    obtain ⟨place, hplace⟩ := List.mem_iff_getElem?.mp hmem
    rw [List.getElem?_drop, Nat.add_comm] at hplace
    exact (hstands hplace).collects

/-- What follows the questions shows the line that tells the directory, and then what its
    calls show. -/
theorem console_afterQuestions (found : Path × Path) :
    ((afterQuestions settings prior arguments found).run.perform host state).2.1 =
      (Console.line s!"[dbg] kcov_out = {Utf8.display found.2}").append
        (Console.ofEvents
          ((afterQuestions settings prior arguments found).run.events host state)) := by
  have hnote : (afterQuestions settings prior arguments found).run =
      .note s!"[dbg] kcov_out = {Utf8.display found.2}"
        (buildAndCollect settings prior arguments found.1 found.2).run := rfl
  have hquiet := quiet_buildAndCollect settings prior arguments found.1 found.2
  rw [hnote]
  exact congrArg (Console.append _) (hquiet.console host state)

theorem shows_run :
    Shows settings ((run settings prior arguments).run.events host state)
      ((run settings prior arguments).run.perform host state).2.1 := by
  have hserves := serves_events settings prior arguments host state
  rw [run_eq_questions] at hserves ⊢
  have hquiet := (quiet_questions settings).console host state
  have hasked := asked_questions settings
    (((questions settings).run.events host state).map Event.response)
  rw [Routine.play, Dialogue.play_events, List.length_map] at hasked
  generalize hresult : ((questions settings).run.perform host state).1 = result at hasked
  generalize hcount : ((questions settings).run.events host state).length = count at hasked
  cases hasked with
  | unknown hle hunknown =>
    -- the run ends here, and what the questions show is all
    obtain ⟨hperform, hevents⟩ :=
      Routine.perform_bind_of_error hresult (afterQuestions settings prior arguments)
    rw [hevents] at hserves
    rw [hperform, hevents, hquiet]
    exact hserves.shows_of_unknown (hcount.trans_le hle) hunknown
  | known hsysroot htarget =>
    -- the line stands between what the two questions show and what the other calls show
    obtain ⟨hperform, hevents⟩ :=
      Routine.perform_bind_of_ok hresult (afterQuestions settings prior arguments)
    rw [hevents] at hserves
    rw [hperform, hevents]
    dsimp only
    rw [hquiet, console_afterQuestions]
    exact hserves.shows_of_known hcount hsysroot htarget

end
end TestCoverage.CoverageRun
