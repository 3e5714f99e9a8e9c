/-
  TestCoverage.Proofs.Host

  Dialogues on a host.  What becomes of the calls is all that a dialogue learns from the
  host, and so its result is the one that it has when it is played with the responses to
  these calls.  A dialogue without notes shows what its calls show, in their order.
-/
import TestCoverage.Proofs.Play

namespace TestCoverage

/-! ## Events -/

/-- A call and what became of it. -/
structure Event where
  call : Call
  outcome : Outcome
deriving DecidableEq, Repr

/-- A line of text with its end. -/
def asLine (text : String) : Bytes :=
  Utf8.ofString text ++ [0x0A]

namespace Event

/-- What the caller is told of it. -/
def response (event : Event) : Response :=
  event.outcome.response event.call.purpose

/-- What the program has written to its output. -/
def output (event : Event) : Bytes :=
  match event.outcome with
  | .notStarted _ => []
  | .ended _ output _ => output

/-- What the program has written to its error output. -/
def errors (event : Event) : Bytes :=
  match event.outcome with
  | .notStarted _ => []
  | .ended _ _ errors => errors

/-- What the call shows on the error output: the line that announces it, and then what the
    program writes there. -/
def shown (event : Event) : Bytes :=
  asLine s!"[dbg] running: {event.call.command.render}" ++ event.errors

end Event

/-- The host is asked for these calls, one after the other, and this becomes of them. -/
inductive Answers {σ : Type} (host : Dialogue.Host σ) : σ → List Event → σ → Prop where
  | nil (state : σ) : Answers host state [] state
  | cons {state next last : σ} {event : Event} {events : List Event}
      (hevent : host event.call state = (event.outcome, next))
      (hevents : Answers host next events last) : Answers host state (event :: events) last

namespace Dialogue

variable {α β σ : Type}

/-- The calls of a dialogue on a host, with what becomes of them. -/
def events (host : Host σ) : Dialogue α → σ → List Event
  | .done _, _ => []
  | .note _ next, state => next.events host state
  | .ask call next, state =>
    let (outcome, state) := host call state
    let event : Event := ⟨call, outcome⟩
    event :: (next (event.response.answer call.command)).events host state

section
variable (host : Host σ)

theorem events_ask (call : Call) (next : Except ToolError (List Char) → Dialogue α)
    (state : σ) :
    (ask call next).events host state =
      let event : Event := ⟨call, (host call state).1⟩
      event :: (next (event.response.answer call.command)).events host (host call state).2 := rfl

theorem perform_ask (call : Call) (next : Except ToolError (List Char) → Dialogue α)
    (state : σ) :
    (ask call next).perform host state =
      let event : Event := ⟨call, (host call state).1⟩
      let rest := (next (event.response.answer call.command)).perform host (host call state).2
      (rest.1, (Console.ofCall call event.outcome).append rest.2.1, rest.2.2) := rfl

theorem answers_events (d : Dialogue α) (state : σ) :
    Answers host state (d.events host state) (d.perform host state).2.2 := by
  induction d generalizing state with
  | done result => exact .nil state
  | note line next ih => exact ih state
  | ask call next ih => exact .cons rfl (ih _ _)

/-- On a host a dialogue has the result, and makes the calls, that it has when it is played
    with the responses that the host gives. -/
theorem play_events (d : Dialogue α) (state : σ) :
    d.play ((d.events host state).map Event.response) =
      ⟨(d.perform host state).1, (d.events host state).map Event.call, []⟩ := by
  induction d generalizing state with
  | done result => rfl
  | note line next ih => exact ih state
  | ask call next ih =>
    -- the response to the first call comes first, and the others are left for the rest
    simp only [play_ask, events_ask, perform_ask, List.map_cons, responseAt, List.getD_cons_zero,
      List.drop_one, List.tail_cons, ih]

/-! ## One dialogue after another -/

theorem append_assoc (a b c : Console) :
    (a.append b).append c = a.append (b.append c) := by
  simp [Console.append]

theorem perform_bind (d : Dialogue α) (f : α → Dialogue β) (state : σ) :
    (d.bind f).perform host state =
      let first := d.perform host state
      let second := (f first.1).perform host first.2.2
      (second.1, first.2.1.append second.2.1, second.2.2) := by
  induction d generalizing state with
  | done result => simp [bind, perform, Console.append]
  | note line next ih => simp only [bind, perform, ih, append_assoc]
  | ask call next ih => simp only [bind, perform_ask, ih, append_assoc]

theorem events_bind (d : Dialogue α) (f : α → Dialogue β) (state : σ) :
    (d.bind f).events host state =
      d.events host state ++
        (f (d.perform host state).1).events host (d.perform host state).2.2 := by
  induction d generalizing state with
  | done result => rfl
  | note line next ih => exact ih state
  | ask call next ih =>
    simp only [bind, events_ask, perform_ask, List.cons_append, ih]

end

/-! ## Dialogues without notes -/

/-- The dialogue writes no notes, whatever it is answered. -/
inductive Quiet : Dialogue α → Prop where
  | done (result : α) : Quiet (.done result)
  | ask {call : Call} {next : Except ToolError (List Char) → Dialogue α}
      (hnext : ∀ answer, Quiet (next answer)) : Quiet (.ask call next)

theorem Quiet.bind {d : Dialogue α} {f : α → Dialogue β} (hd : Quiet d)
    (hf : ∀ a, Quiet (f a)) : Quiet (d.bind f) := by
  induction hd with
  | done result => exact hf result
  | ask _ ih => exact .ask ih

/-- What calls show: the output of those that are not captured, and on the error output all
    of them. -/
def Console.ofEvents (events : List Event) : Console where
  output := (events.filter fun event => event.call.purpose = .run).flatMap Event.output
  errors := events.flatMap Event.shown

theorem ofEvents_cons (event : Event) (events : List Event) :
    Console.ofEvents (event :: events) =
      (Console.ofCall event.call event.outcome).append (Console.ofEvents events) := by
  obtain ⟨⟨purpose, command⟩, outcome⟩ := event
  cases purpose <;> cases outcome <;>
    simp [Console.ofEvents, Console.ofCall, Console.append, announcement, Console.line,
      Event.shown, Event.output, Event.errors, asLine]

/-- A dialogue without notes shows what its calls show. -/
theorem Quiet.console {d : Dialogue α} (h : Quiet d) (host : Host σ) (state : σ) :
    (d.perform host state).2.1 = Console.ofEvents (d.events host state) := by
  induction h generalizing state with
  | done result => rfl
  | ask _ ih => rw [events_ask, ofEvents_cons, ← ih, perform_ask]

end Dialogue

/-! ## Routines -/

namespace Routine

open Dialogue (Host Quiet)

variable {α β σ : Type}

/-- A routine that fails on the host is not followed by another. -/
theorem perform_bind_of_error {host : Host σ} {routine : Routine α} {state : σ}
    {failure : Failure} (h : (routine.run.perform host state).1 = .error failure)
    (next : α → Routine β) :
    (routine >>= next).run.perform host state =
        (.error failure, (routine.run.perform host state).2) ∧
      (routine >>= next).run.events host state = routine.run.events host state := by
  change (Dialogue.bind routine.run (ExceptT.bindCont next)).perform host state = _ ∧
    (Dialogue.bind routine.run (ExceptT.bindCont next)).events host state = _
  rw [Dialogue.perform_bind, Dialogue.events_bind]
  generalize Dialogue.perform host routine.run state = first at h ⊢
  obtain ⟨result, console, last⟩ := first
  cases h
  simp [ExceptT.bindCont, Dialogue.perform, Dialogue.events, Dialogue.Console.append]

/-- A routine that succeeds on the host is followed by the next one, from where it has left
    the host. -/
theorem perform_bind_of_ok {host : Host σ} {routine : Routine α} {state : σ} {value : α}
    (h : (routine.run.perform host state).1 = .ok value) (next : α → Routine β) :
    let first := routine.run.perform host state
    let second := (next value).run.perform host first.2.2
    (routine >>= next).run.perform host state =
        (second.1, first.2.1.append second.2.1, second.2.2) ∧
      (routine >>= next).run.events host state =
        routine.run.events host state ++ (next value).run.events host first.2.2 := by
  change (Dialogue.bind routine.run (ExceptT.bindCont next)).perform host state = _ ∧
    (Dialogue.bind routine.run (ExceptT.bindCont next)).events host state = _
  rw [Dialogue.perform_bind, Dialogue.events_bind]
  generalize Dialogue.perform host routine.run state = first at h ⊢
  obtain ⟨result, console, last⟩ := first
  cases h
  exact ⟨rfl, rfl⟩

/-! ## Routines without notes -/

theorem quiet_pure (value : α) : Quiet (pure value : Routine α).run :=
  .done _

theorem quiet_throw (failure : Failure) : Quiet (throw failure : Routine α).run :=
  .done _

theorem quiet_ofExcept {ε : Type} (wrap : ε → Failure) (result : Except ε α) :
    Quiet (ofExcept wrap result).run :=
  .done _

theorem quiet_capture (command : Command) : Quiet (capture command).run :=
  .ask fun _ => .done _

theorem quiet_execute (command : Command) : Quiet (execute command).run :=
  .ask fun _ => .done _

theorem quiet_bind {routine : Routine α} {next : α → Routine β} (h : Quiet routine.run)
    (hnext : ∀ value, Quiet (next value).run) : Quiet (routine >>= next).run := by
  refine Quiet.bind h fun result => ?_
  cases result with
  | error failure => exact .done _
  | ok value => exact hnext value

theorem quiet_attempt {routine : Routine α} (h : Quiet routine.run) :
    Quiet (attempt routine).run :=
  Quiet.bind h fun _ => .done _

end Routine
end TestCoverage
