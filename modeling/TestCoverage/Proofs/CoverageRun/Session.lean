/-
  TestCoverage.Proofs.CoverageRun.Session

  Several runs in one session: same settings, same library path, and one list of responses
  from which each run takes what it needs.  No run sees anything of the runs before it but
  the responses that they have left.
-/
import TestCoverage.Proofs.CoverageRun.Calls
import TestCoverage.Proofs.CoverageRun.Places
import TestCoverage.Proofs.Play

namespace TestCoverage.CoverageRun

open Dialogue (Played)

/-! ## Sessions -/

/-- Runs one after the other, each for its own arguments.  The next one is made whatever the
    one before came to. -/
def session (settings : Settings) (prior : Option Bytes) :
    List (List Bytes) → Dialogue (List (Except Failure Summary))
  | [] => .done []
  | arguments :: requests =>
    (run settings prior arguments).run.bind fun result =>
      (session settings prior requests).bind fun results => .done (result :: results)

/-- The runs of a session one by one, each with the responses that are left for it. -/
def runsInTurn (settings : Settings) (prior : Option Bytes) :
    List (List Bytes) → List Response → List (Played (Except Failure Summary))
  | [], _ => []
  | arguments :: requests, responses =>
    let played := (run settings prior arguments).play responses
    played :: runsInTurn settings prior requests played.unused

/-- What one run of a session does when the runs before it have made so many calls. -/
structure IsSeparate (settings : Settings) (prior : Option Bytes) (arguments : List Bytes)
    (responses : List Response) (before : Nat) (played : Played (Except Failure Summary)) :
    Prop where
  /-- It is a first run that gets the responses which are left. -/
  first : played = (run settings prior arguments).play (responses.drop before)
  /-- It uses as many of them as it makes calls. -/
  unused : played.unused = responses.drop (before + played.calls.length)
  /-- Responses that it does not use make no difference to it. -/
  local_responses : ∀ responses',
    (∀ place < played.calls.length,
      responseAt responses' place = responseAt responses (before + place)) →
    ((run settings prior arguments).play responses').result = played.result ∧
      ((run settings prior arguments).play responses').calls = played.calls
  /-- Its questions have no variables. -/
  questions : ∀ place < 2, ∀ call, played.calls[place]? = some call →
    call.command.environment.bindings = []
  /-- Its other calls have the library path of the process, extended once by the directory
      that the compiler has named in this run. -/
  environment : ∀ place ≥ 2, ∀ call, played.calls[place]? = some call →
    ∃ sysroot, Sysroot (responseAt responses before) sysroot ∧
      call.command.environment = childEnvironment settings prior sysroot

section
variable (settings : Settings) (prior : Option Bytes)

/-! ## The runs together -/

/-- A session has the results and the calls of its runs, in order. -/
theorem play_session (requests : List (List Bytes)) (responses : List Response) :
    (session settings prior requests).play responses =
      let runs := runsInTurn settings prior requests responses
      ⟨runs.map (·.result), runs.flatMap (·.calls),
        responses.drop (runs.flatMap (·.calls)).length⟩ := by
  induction requests generalizing responses with
  | nil => rfl
  | cons arguments requests ih =>
    have hrun : Dialogue.play (run settings prior arguments).run responses =
        (run settings prior arguments).play responses := rfl
    rw [session, Dialogue.play_bind, hrun]
    dsimp only
    rw [Dialogue.play_bind, ih, runsInTurn]
    simp [Dialogue.play, Routine.play_unused]

/-- The run at a place begins where the calls of the runs before it end. -/
theorem getElem?_runsInTurn {requests : List (List Bytes)} {k : Nat} {arguments : List Bytes}
    (h : requests[k]? = some arguments) (responses : List Response) :
    let runs := runsInTurn settings prior requests responses
    runs[k]? = some ((run settings prior arguments).play
      (responses.drop ((runs.take k).flatMap (·.calls)).length)) := by
  induction requests generalizing k responses with
  | nil => cases h
  | cons first requests ih =>
    cases k with
    | zero =>
      cases h
      rfl
    | succ k =>
      have hrest := ih h ((run settings prior first).play responses).unused
      dsimp only at hrest ⊢
      rw [runsInTurn, List.getElem?_cons_succ, hrest, List.take_succ_cons, List.flatMap_cons,
        List.length_append, Routine.play_unused, List.drop_drop]

theorem length_runsInTurn (requests : List (List Bytes)) (responses : List Response) :
    (runsInTurn settings prior requests responses).length = requests.length := by
  induction requests generalizing responses with
  | nil => rfl
  | cons arguments requests ih => rw [runsInTurn, List.length_cons, List.length_cons, ih]

/-! ## One run -/

/-- A run that is given what is left of the responses is separate from those before it. -/
theorem isSeparate_play (arguments : List Bytes) (responses : List Response) (before : Nat) :
    IsSeparate settings prior arguments responses before
      ((run settings prior arguments).play (responses.drop before)) := by
  have hfirst : responseAt (responses.drop before) 0 = responseAt responses before :=
    responseAt_drop responses before 0
  constructor
  · rfl
  · rw [Routine.play_unused, List.drop_drop]
  · intro responses' hsame
    refine Dialogue.play_congr fun place hplace => ?_
    rw [responseAt_drop]
    exact hsame place hplace
  · intro place hplace call hcall
    cases standsAt_of_getElem? hcall with
    | sysroot => rfl
    | workspace => rfl
    | build => exact absurd hplace (by decide)
    | collect => omega
  · intro place hplace call hcall
    have hstands := standsAt_of_getElem? hcall
    rw [hfirst] at hstands
    obtain ⟨sysroot, hsysroot, henvironment⟩ := hstands.exists_sysroot hplace
    exact ⟨sysroot, hsysroot,
      henvironment.trans (childEnvironment_eq settings prior sysroot).symm⟩

end

/-! ## No run leaks into another -/

/-- In a session every run has the result and the calls of a run of its own, whatever the runs
    before it came to: it gets the responses behind those that they have used, and nothing
    else of them. -/
theorem session_runs_separate (settings : Settings) (prior : Option Bytes)
    (requests : List (List Bytes)) (responses : List Response) :
    ∃ runs : List (Played (Except Failure Summary)),
      (session settings prior requests).play responses =
        ⟨runs.map (·.result), runs.flatMap (·.calls),
          responses.drop (runs.flatMap (·.calls)).length⟩ ∧
      runs.length = requests.length ∧
      ∀ k arguments, requests[k]? = some arguments →
        ∃ played, runs[k]? = some played ∧
          IsSeparate settings prior arguments responses
            ((runs.take k).flatMap (·.calls)).length played := by
  refine ⟨runsInTurn settings prior requests responses, play_session settings prior requests
    responses, length_runsInTurn settings prior requests responses, ?_⟩
  intro k arguments harguments
  exact ⟨_, getElem?_runsInTurn settings prior harguments responses,
    isSeparate_play settings prior arguments responses _⟩

end TestCoverage.CoverageRun
