/-
  TestCoverage.Proofs.Artifact.Line

  One line of the build tool's output: white space, the value of an artifact, white space.
  The white space that is trimmed away is that of Unicode, of which JSON knows a part.
-/
import TestCoverage.Proofs.Artifact.Acceptance
import TestCoverage.Proofs.Artifact.Stream

namespace TestCoverage.Json

open Text (isBlank AllBlank Tight)

/-- White space between tokens is white space. -/
theorem Spaces.allBlank {text : List Char} (h : Spaces text) : AllBlank text := by
  intro c hc
  rcases h c hc with rfl | rfl | rfl | rfl <;> rfl

/-! ## Brackets at both ends -/

section
variable {α : Type} {Item : α → List Char → Prop} {close : Char} {xs : List α}

theorem Tail.exists_concat {written : List Char} (h : Tail Item close xs written) :
    ∃ front, written = front ++ [close] := by
  induction h with
  | close => exact ⟨_, rfl⟩
  | @item space space' written rest _ _ _ _ _ _ ih =>
    obtain ⟨front, rfl⟩ := ih
    exact ⟨space ++ ',' :: (space' ++ (written ++ front)), by simp⟩

theorem Body.exists_concat {body : List Char} (h : Body Item close xs body) :
    ∃ front, body = front ++ [close] := by
  cases h with
  | empty => exact ⟨_, rfl⟩
  | @items space written _ _ _ _ _ htail =>
    obtain ⟨front, rfl⟩ := htail.exists_concat
    exact ⟨space ++ (written ++ front), by simp⟩

/-- What stands between brackets neither begins nor ends with white space. -/
theorem Body.tight {opening : Char} {body : List Char} (h : Body Item close xs body)
    (hopening : isBlank opening = false) (hclose : isBlank close = false) :
    Tight (opening :: body) := by
  obtain ⟨front, rfl⟩ := h.exists_concat
  constructor
  · rintro c ⟨⟩
    exact hopening
  · intro c hc
    rw [← List.cons_append, List.getLast?_concat] at hc
    cases hc
    exact hclose

end

end TestCoverage.Json

namespace TestCoverage.Artifact

open Json (IsValue)
open Text (AllBlank Tight)

/-- A value that stands for an artifact is written between brackets. -/
theorem tight_of_artifact? {value : Json.Value} {written : List Char} {artifact : Artifact}
    (hvalue : IsValue value written) (hartifact : artifact? value = some artifact) :
    Tight written := by
  cases hvalue with
  | list hbody => exact hbody.tight rfl rfl
  | object hbody => exact hbody.tight rfl rfl
  | _ => cases hartifact

/-- A line is read if it is the value of an artifact with white space around it. -/
theorem decodes_iff {line : List Char} {artifact : Artifact} :
    Decodes line artifact ↔
      ∃ before value written after, AllBlank before ∧ IsValue value written ∧
        artifact? value = some artifact ∧ AllBlank after ∧
        line = before ++ (written ++ after) := by
  rw [Decodes, parse, Json.readDocument_eq_ok_iff reads_artifact]
  constructor
  · rintro ⟨value, ⟨space, written, space', hspace, hvalue, hspace', htrim⟩, hartifact⟩
    obtain ⟨before, after, hbefore, hafter, hline⟩ := Text.exists_trim line
    refine ⟨before ++ space, value, written, space' ++ after, ?_, hvalue, hartifact, ?_, ?_⟩
    · exact Text.allBlank_append_iff.mpr ⟨hbefore, hspace.allBlank⟩
    · exact Text.allBlank_append_iff.mpr ⟨hspace'.allBlank, hafter⟩
    · rw [hline, htrim]
      simp only [List.append_assoc]
  · rintro ⟨before, value, written, after, hbefore, hvalue, hartifact, hafter, rfl⟩
    refine ⟨value, ⟨[], written, [], Json.spaces_nil, hvalue, Json.spaces_nil, ?_⟩, hartifact⟩
    rw [(tight_of_artifact? hvalue hartifact).trim_append hbefore hafter]
    simp

/-- White space at the end of a line does not matter. -/
theorem decodes_append_iff {line after : List Char} (h : AllBlank after) {artifact : Artifact} :
    Decodes (line ++ after) artifact ↔ Decodes line artifact := by
  rw [Decodes, Decodes, Text.trim_append_of_allBlank h]

/-- A line that is read is not blank. -/
theorem Decodes.not_allBlank {line : List Char} {artifact : Artifact}
    (h : Decodes line artifact) : ¬ AllBlank line := by
  intro hblank
  rw [Decodes, (Text.trim_eq_nil_iff line).mpr hblank] at h
  cases h

end TestCoverage.Artifact
