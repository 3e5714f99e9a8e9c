/-
  TestCoverage.Dialogue

  A computation that calls external programs, as a tree of questions: each call with what
  follows every answer to it.  The tree does not say how calls are answered.  It is played
  against a list of responses, or performed on a host that really does something.
-/
import TestCoverage.Call

namespace TestCoverage

/-- A computation that calls programs and writes notes on its way to a result. -/
inductive Dialogue (α : Type) where
  | done (result : α)
  | ask (call : Call) (next : Except ToolError (List Char) → Dialogue α)
  | note (line : String) (next : Dialogue α)

namespace Dialogue

variable {α β : Type}

/-- The dialogue that goes on with what the result asks for. -/
def bind (d : Dialogue α) (f : α → Dialogue β) : Dialogue β :=
  match d with
  | .done result => f result
  | .ask call next => .ask call fun answer => (next answer).bind f
  | .note line next => .note line (next.bind f)

instance : Monad Dialogue where
  pure := .done
  bind := bind

@[simp] theorem pure_eq (result : α) : (pure result : Dialogue α) = .done result := rfl

@[simp] theorem bind_eq (d : Dialogue α) (f : α → Dialogue β) : d >>= f = d.bind f := rfl

theorem bind_done (d : Dialogue α) : d.bind .done = d := by
  induction d with
  | done result => rfl
  | ask call next ih => simp [bind, ih]
  | note line next ih => simp [bind, ih]

theorem bind_assoc {γ : Type} (d : Dialogue α) (f : α → Dialogue β) (g : β → Dialogue γ) :
    (d.bind f).bind g = d.bind fun a => (f a).bind g := by
  induction d with
  | done result => rfl
  | ask call next ih => simp [bind, ih]
  | note line next ih => simp [bind, ih]

instance : LawfulMonad Dialogue :=
  LawfulMonad.mk' Dialogue bind_done (fun _ _ => rfl) bind_assoc

/-- Calls a program. -/
def call (purpose : Purpose) (command : Command) : Dialogue (Except ToolError (List Char)) :=
  .ask ⟨purpose, command⟩ .done

/-! ## Against a list of responses -/

/-- A dialogue that has come to its end: the result, the calls that were made, and the
    responses that were not needed. -/
structure Played (α : Type) where
  result : α
  calls : List Call
  unused : List Response
deriving Repr

/-- Plays the dialogue with the responses in order.  When there are none left, every call
    succeeds without output. -/
def play : Dialogue α → List Response → Played α
  | .done result, responses => ⟨result, [], responses⟩
  | .note _ next, responses => next.play responses
  | .ask call next, responses =>
    let response := responses.headD (.output [])
    let played := (next (response.answer call.command)).play responses.tail
    { played with calls := call :: played.calls }

/-- A dialogue followed by another makes the calls of both, and each response is used
    once. -/
theorem play_bind (d : Dialogue α) (f : α → Dialogue β) (responses : List Response) :
    (d.bind f).play responses =
      let first := d.play responses
      let second := (f first.result).play first.unused
      ⟨second.result, first.calls ++ second.calls, second.unused⟩ := by
  induction d generalizing responses with
  | done result => simp [bind, play]
  | note line next ih => simpa [bind, play] using ih responses
  | ask call next ih => simp [bind, play, ih]

/-! ## On a host -/

/-- What has been written to the two outputs of a process. -/
structure Console where
  output : Bytes := []
  errors : Bytes := []
deriving DecidableEq, Repr

/-- Both outputs, one console's after the other's. -/
def Console.append (a b : Console) : Console :=
  ⟨a.output ++ b.output, a.errors ++ b.errors⟩

/-- Something that can be asked to run programs, with a state that they may change. -/
abbrev Host (σ : Type) := Call → σ → Outcome × σ

/-- A line on the error output. -/
def Console.line (text : String) : Console :=
  { errors := Utf8.ofString text ++ [0x0A] }

/-- The line that announces a call. -/
def announcement (call : Call) : Console :=
  .line s!"[dbg] running: {call.command.render}"

/-- What a call shows: its announcement, the program's error output, and, unless it is
    captured, its output. -/
def Console.ofCall (call : Call) (outcome : Outcome) : Console :=
  match outcome with
  | .notStarted _ => announcement call
  | .ended _ output errors =>
    (announcement call).append ⟨if call.purpose = .run then output else [], errors⟩

/-- Performs the dialogue on a host: the result, what was shown, and the host's last
    state. -/
def perform {σ : Type} (host : Host σ) : Dialogue α → σ → α × Console × σ
  | .done result, state => (result, {}, state)
  | .note line next, state =>
    let (result, console, state) := next.perform host state
    (result, (Console.line line).append console, state)
  | .ask call next, state =>
    let (outcome, state) := host call state
    let answer := (outcome.response call.purpose).answer call.command
    let (result, console, state) := (next answer).perform host state
    (result, (Console.ofCall call outcome).append console, state)

end Dialogue
end TestCoverage
