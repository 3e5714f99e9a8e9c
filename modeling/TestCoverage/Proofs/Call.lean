/-
  TestCoverage.Proofs.Call

  The two ways to call a program, compared on everything that may become of it.  They fail alike,
  except that the output of a captured program must be text: then the caller has just the text
  that was written, and otherwise a failure where a program that is only run succeeds.
-/
import TestCoverage.Proofs.Text.Utf8
import TestCoverage.Toolchain

namespace TestCoverage

/-! ## What the caller has -/

namespace Routine

/-- The result of a routine when every call comes to the same outcome. -/
def resultOn {α : Type} (routine : Routine α) (outcome : Outcome) : Except Failure α :=
  (routine.run.perform (fun _ (state : Unit) => (outcome, state)) ()).1

theorem resultOn_capture (command : Command) (outcome : Outcome) :
    (capture command).resultOn outcome =
      ((outcome.response .capture).answer command).mapError .tool := rfl

theorem resultOn_execute (command : Command) (outcome : Outcome) :
    (execute command).resultOn outcome =
      (((outcome.response .run).answer command).map fun _ => ()).mapError .tool := rfl

end Routine

/-! ## What the two ways make of an outcome -/

/-- What the caller has of a command that comes to an outcome, if its output is captured and if it
    is only run. -/
inductive Outcome.Results (command : Command) :
    Outcome → Except Failure (List Char) → Except Failure Unit → Prop where
  | notStarted (reason : StartError) :
      Results command (.notStarted reason)
        (.error (.tool (.notStarted command.program reason)))
        (.error (.tool (.notStarted command.program reason)))
  | failed {code : Option Int} (output errors : Bytes) (hcode : code ≠ some 0) :
      Results command (.ended code output errors)
        (.error (.tool (.status command.render code)))
        (.error (.tool (.status command.render code)))
  | text {text : List Char} {output : Bytes} (errors : Bytes)
      (htext : Utf8.encode text = output) :
      Results command (.ended (some 0) output errors) (.ok text) (.ok ())
  | notText {output : Bytes} (errors : Bytes) (houtput : ¬ Utf8.WellFormed output) :
      Results command (.ended (some 0) output errors)
        (.error (.tool (.notText command.program))) (.ok ())

/-- First comes whether the program was started, then whether it succeeded, and whether the output
    is text only last. -/
theorem Outcome.results (command : Command) (outcome : Outcome) :
    outcome.Results command ((Routine.capture command).resultOn outcome)
      ((Routine.execute command).resultOn outcome) := by
  rw [Routine.resultOn_capture, Routine.resultOn_execute]
  cases outcome with
  | notStarted reason => exact .notStarted reason
  | ended code output errors =>
    by_cases hcode : code = some 0
    · subst hcode
      simp only [Outcome.response, if_true]
      cases hread : Utf8.decode? output with
      | some text => exact .text errors (Utf8.decode?_eq_some_iff.mp hread)
      | none => exact .notText errors (Utf8.decode?_eq_none_iff.mp hread)
    · simp only [Outcome.response, if_neg hcode]
      exact .failed output errors hcode

/-- A program that is run succeeds exactly if it exits with zero.  If it is not started or does
    not succeed, the failure is the same whether its output is captured or not, and whatever the
    output is.  If it succeeds, the captured output is the text of which it has the bytes, and a
    failure if there is no such text, which is the only difference between the two. -/
theorem capture_execute_agree (command : Command) (outcome : Outcome) :
    let captured := (Routine.capture command).resultOn outcome
    let executed := (Routine.execute command).resultOn outcome
    (executed = .ok () ↔ ∃ output errors, outcome = .ended (some 0) output errors) ∧
    (∀ reason, outcome = .notStarted reason →
      captured = .error (.tool (.notStarted command.program reason)) ∧
        executed = .error (.tool (.notStarted command.program reason))) ∧
    (∀ code output errors, outcome = .ended code output errors → code ≠ some 0 →
      captured = .error (.tool (.status command.render code)) ∧
        executed = .error (.tool (.status command.render code))) ∧
    (∀ output errors, outcome = .ended (some 0) output errors →
      (∀ text, captured = .ok text ↔ Utf8.encode text = output) ∧
      ((∃ text, captured = .ok text) ↔ Utf8.WellFormed output) ∧
      (captured = .error (.tool (.notText command.program)) ↔ ¬ Utf8.WellFormed output)) ∧
    (∀ text, captured = .ok text → executed = .ok ()) ∧
    (captured.map (fun _ => ()) = executed ∨
      captured = .error (.tool (.notText command.program)) ∧ executed = .ok ()) := by
  have hresults := Outcome.results command outcome
  dsimp only
  generalize (Routine.capture command).resultOn outcome = captured at hresults ⊢
  generalize (Routine.execute command).resultOn outcome = executed at hresults ⊢
  cases hresults with
  | notStarted reason => simp [Except.map]
  | failed output errors hcode => simp [hcode, Except.map]
  | @text text output errors htext =>
    have hwell : Utf8.WellFormed output := Utf8.wellFormed_iff.mpr ⟨text, htext⟩
    have hread (other : List Char) : text = other ↔ Utf8.encode other = output := by
      rw [← htext, Utf8.encode_injective.eq_iff, eq_comm]
    simp [hwell, ← hread, Except.map]
  | @notText output errors houtput =>
    have hread (text : List Char) : Utf8.encode text ≠ output :=
      fun htext => houtput (Utf8.wellFormed_iff.mpr ⟨text, htext⟩)
    simp [houtput, hread]

/-- A zero that is written in two bytes is no text, which matters only to a caller who wants the
    output of a program that succeeds. -/
theorem capture_execute_agree_overlong :
    let command : Command := { program := "p" }
    let output : Bytes := [0x61, 0xC0, 0x80]
    (Routine.capture command).resultOn (.ended (some 0) output []) =
        .error (.tool (.notText "p")) ∧
      (Routine.execute command).resultOn (.ended (some 0) output []) = .ok () ∧
      (Routine.capture command).resultOn (.ended none output []) =
        .error (.tool (.status "\"p\"" none)) := by
  intro command output
  obtain ⟨hexecuted, -, -, hsucceeded, -⟩ :=
    capture_execute_agree command (.ended (some 0) output [])
  obtain ⟨-, -, hfailed, -⟩ := capture_execute_agree command (.ended none output [])
  have houtput : ¬ Utf8.WellFormed output := by decide
  have hrender : command.render = "\"p\"" := by decide
  refine ⟨(hsucceeded output [] rfl).2.2.mpr houtput, hexecuted.mpr ⟨output, [], rfl⟩, ?_⟩
  rw [(hfailed none output [] rfl (by decide)).1, hrender]

end TestCoverage
