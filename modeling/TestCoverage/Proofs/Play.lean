/-
  TestCoverage.Proofs.Play

  Routines played with a list of responses: what each way of building a routine makes of
  the calls, the result and the responses that are left.

  Played with responses, a dialogue takes nothing else from the world around it: it uses one
  response for each call that it makes and sees no others.
-/
import TestCoverage.Toolchain

namespace TestCoverage

/-- The response to the call at a place, where a list that has ended goes on with successes
    without output. -/
def responseAt (responses : List Response) (place : Nat) : Response :=
  responses.getD place (.output [])

theorem responseAt_zero (responses : List Response) :
    responseAt responses 0 = responses.headD (.output []) := by
  cases responses <;> rfl

theorem responseAt_drop (responses : List Response) (skipped place : Nat) :
    responseAt (responses.drop skipped) place = responseAt responses (skipped + place) := by
  simp [responseAt, List.getD_eq_getElem?_getD]

/-- The call was successful. -/
def Response.Succeeds (response : Response) : Prop :=
  ∃ text, response = .output text

instance (response : Response) : Decidable response.Succeeds :=
  match response with
  | .output text => .isTrue ⟨text, rfl⟩
  | .status _ => .isFalse (fun ⟨_, h⟩ => nomatch h)
  | .notStarted _ => .isFalse (fun ⟨_, h⟩ => nomatch h)
  | .notText => .isFalse (fun ⟨_, h⟩ => nomatch h)

/-- A response is a success or means an error. -/
theorem Response.not_succeeds_iff {response : Response} (command : Command) :
    ¬ response.Succeeds ↔ ∃ error, response.answer command = .error error := by
  cases response <;> simp [Response.Succeeds, Response.answer]

namespace Routine

open Dialogue (Played)

variable {α β : Type}

@[simp] theorem play_pure (value : α) (responses : List Response) :
    (pure value : Routine α).play responses = ⟨.ok value, [], responses⟩ := rfl

@[simp] theorem play_throw (failure : Failure) (responses : List Response) :
    (throw failure : Routine α).play responses = ⟨.error failure, [], responses⟩ := rfl

@[simp] theorem play_note (line : String) (responses : List Response) :
    (note line).play responses = ⟨.ok (), [], responses⟩ := rfl

@[simp] theorem play_ofExcept {ε : Type} (wrap : ε → Failure) (result : Except ε α)
    (responses : List Response) :
    (ofExcept wrap result).play responses = ⟨result.mapError wrap, [], responses⟩ := rfl

/-- What is played after a first part that ended in `first`: nothing more if it failed. -/
def continued (first : Played (Except Failure α)) (next : α → Routine β) :
    Played (Except Failure β) :=
  match first.result with
  | .error failure => ⟨.error failure, first.calls, first.unused⟩
  | .ok value =>
    let second := (next value).play first.unused
    ⟨second.result, first.calls ++ second.calls, second.unused⟩

@[simp] theorem continued_ok (value : α) (calls : List Call) (unused : List Response)
    (next : α → Routine β) :
    continued ⟨.ok value, calls, unused⟩ next =
      let second := (next value).play unused
      ⟨second.result, calls ++ second.calls, second.unused⟩ := rfl

@[simp] theorem continued_error (failure : Failure) (calls : List Call)
    (unused : List Response) (next : α → Routine β) :
    continued ⟨.error failure, calls, unused⟩ next = ⟨.error failure, calls, unused⟩ := rfl

/-- A routine followed by another: the second uses the responses that the first leaves. -/
theorem play_bind (routine : Routine α) (next : α → Routine β) (responses : List Response) :
    (routine >>= next).play responses = continued (routine.play responses) next := by
  have h := Dialogue.play_bind (routine.run : Dialogue (Except Failure α))
    (ExceptT.bindCont next) responses
  change Dialogue.play (Dialogue.bind routine.run (ExceptT.bindCont next)) responses =
    continued (Dialogue.play routine.run responses) next
  rw [h]
  generalize Dialogue.play routine.run responses = first
  obtain ⟨result, calls, unused⟩ := first
  cases result with
  | error failure => exact congrArg (Played.mk _ · _) (List.append_nil calls)
  | ok value => rfl

theorem play_capture (command : Command) (responses : List Response) :
    (capture command).play responses =
      ⟨((responseAt responses 0).answer command).mapError .tool, [⟨.capture, command⟩],
        responses.drop 1⟩ := by
  rw [responseAt_zero, List.drop_one]
  rfl

theorem play_execute (command : Command) (responses : List Response) :
    (execute command).play responses =
      ⟨(((responseAt responses 0).answer command).map fun _ => ()).mapError .tool,
        [⟨.run, command⟩], responses.drop 1⟩ := by
  rw [responseAt_zero, List.drop_one]
  rfl

/-- An attempt makes the same calls and always has a result. -/
theorem play_attempt (routine : Routine α) (responses : List Response) :
    (attempt routine).play responses =
      let played := routine.play responses
      ⟨.ok played.result, played.calls, played.unused⟩ := by
  have h := Dialogue.play_bind (routine.run : Dialogue (Except Failure α))
    (fun result => .done (Except.ok result : Except Failure (Except Failure α))) responses
  unfold play attempt
  change Dialogue.play (Dialogue.bind routine.run _) responses = _
  rw [h]
  simp [Dialogue.play]

end Routine
namespace Dialogue

variable {α : Type}

/-! ## The responses that are used -/

theorem play_ask (call : Call) (next : Except ToolError (List Char) → Dialogue α)
    (responses : List Response) :
    (ask call next).play responses =
      let played := (next ((responseAt responses 0).answer call.command)).play (responses.drop 1)
      ⟨played.result, call :: played.calls, played.unused⟩ := by
  rw [play, responseAt_zero, List.drop_one]

/-- As many responses are used as calls are made. -/
theorem play_unused (d : Dialogue α) (responses : List Response) :
    (d.play responses).unused = responses.drop (d.play responses).calls.length := by
  induction d generalizing responses with
  | done result => rfl
  | note line next ih => exact ih responses
  | ask call next ih =>
    rw [play_ask]
    dsimp only
    rw [ih, List.drop_drop, List.length_cons, Nat.add_comm]

/-- Responses behind those that are used make no difference. -/
theorem play_congr {d : Dialogue α} {responses responses' : List Response}
    (h : ∀ place < (d.play responses).calls.length,
      responseAt responses' place = responseAt responses place) :
    (d.play responses').result = (d.play responses).result ∧
      (d.play responses').calls = (d.play responses).calls := by
  induction d generalizing responses responses' with
  | done result => exact ⟨rfl, rfl⟩
  | note line next ih => exact ih h
  | ask call next ih =>
    rw [play_ask] at h
    -- the first response is used, so the same call is followed by the same dialogue
    have hfirst : responseAt responses' 0 = responseAt responses 0 := h 0 (Nat.succ_pos _)
    have hbehind : ∀ place <
        ((next ((responseAt responses 0).answer call.command)).play
          (responses.drop 1)).calls.length,
        responseAt (responses'.drop 1) place = responseAt (responses.drop 1) place := by
      intro place hplace
      rw [responseAt_drop, responseAt_drop]
      exact h (1 + place) (by rw [List.length_cons]; omega)
    have hrest := ih _ hbehind
    rw [play_ask, play_ask, hfirst]
    exact ⟨hrest.1, congrArg (call :: ·) hrest.2⟩

end Dialogue

theorem Routine.play_unused {α : Type} (routine : Routine α) (responses : List Response) :
    (routine.play responses).unused = responses.drop (routine.play responses).calls.length :=
  Dialogue.play_unused routine.run responses

end TestCoverage
