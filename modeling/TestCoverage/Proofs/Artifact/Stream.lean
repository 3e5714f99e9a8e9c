/-
  TestCoverage.Proofs.Artifact.Stream

  What becomes of the build tool's output as a whole: it is read if every line that is not
  blank is read, and otherwise the first line that is not read is the error.
-/
import Mathlib.Data.List.Forall2
import TestCoverage.Artifact.Stream
import TestCoverage.Proofs.Except
import TestCoverage.Proofs.Text.Blank

namespace TestCoverage.Artifact

open Text (AllBlank)

/-! ## Lines -/

/-- The message on the line is read as the artifact. -/
def Decodes (line : List Char) (artifact : Artifact) : Prop :=
  parse (Text.trim line) = .ok artifact

/-- The lines that are not blank, in order. -/
def messageLines (output : List Char) : List (List Char) :=
  (Text.pieces '\n' output).filter fun line => ¬ AllBlank line

/-- Nothing is wrong with the line: it is blank, or its message is read. -/
def Readable (line : List Char) : Prop :=
  AllBlank line ∨ ∃ artifact, Decodes line artifact

/-- Of the lines, the first that is not readable stands behind `before`. -/
def FirstFault (lines before : List (List Char)) (error : Json.Error) : Prop :=
  ∃ line after, lines = before ++ line :: after ∧ (∀ earlier ∈ before, Readable earlier) ∧
    ¬ AllBlank line ∧ parse (Text.trim line) = .error error

theorem lineItem?_of_allBlank {number : Nat} {line : List Char} (h : AllBlank line) :
    lineItem? number line = none := by
  rw [lineItem?, (Text.trim_eq_nil_iff line).mpr h]

theorem lineItem?_of_not_allBlank {number : Nat} {line : List Char} (h : ¬ AllBlank line) :
    lineItem? number line = some ((parse (Text.trim line)).mapError (⟨number, ·⟩)) := by
  rw [lineItem?]
  split
  · next htrim => exact absurd ((Text.trim_eq_nil_iff line).mp htrim) h
  · rfl

/-- A blank line only counts. -/
theorem itemsFrom_cons_of_allBlank {number : Nat} {line : List Char}
    {lines : List (List Char)} (h : AllBlank line) :
    itemsFrom number (line :: lines) = itemsFrom (number + 1) lines := by
  rw [itemsFrom, lineItem?_of_allBlank h]

/-- Any other line gives an item. -/
theorem itemsFrom_cons_of_not_allBlank {number : Nat} {line : List Char}
    {lines : List (List Char)} (h : ¬ AllBlank line) :
    itemsFrom number (line :: lines) =
      (parse (Text.trim line)).mapError (⟨number, ·⟩) :: itemsFrom (number + 1) lines := by
  rw [itemsFrom, lineItem?_of_not_allBlank h]

/-! ## All lines -/

theorem allArtifacts_cons_eq_ok_iff {item : Except LineError Artifact}
    {items : List (Except LineError Artifact)} {artifacts : List Artifact} :
    allArtifacts (item :: items) = .ok artifacts ↔
      ∃ artifact rest, item = .ok artifact ∧ allArtifacts items = .ok rest ∧
        artifacts = artifact :: rest := by
  cases item with
  | error error => simp [allArtifacts]
  | ok artifact =>
    simp only [allArtifacts, Except.map_eq_ok_iff, Except.ok.injEq, exists_and_left,
      exists_eq_left']
    exact exists_congr fun rest => and_congr_right fun _ => eq_comm

theorem allArtifacts_cons_eq_error_iff {item : Except LineError Artifact}
    {items : List (Except LineError Artifact)} {error : LineError} :
    allArtifacts (item :: items) = .error error ↔
      item = .error error ∨
        (∃ artifact, item = .ok artifact) ∧ allArtifacts items = .error error := by
  cases item with
  | error error => simp [allArtifacts]
  | ok artifact => simp [allArtifacts]

/-- All artifacts are there exactly if every message is read. -/
theorem allArtifacts_itemsFrom_eq_ok_iff (number : Nat) (lines : List (List Char))
    (artifacts : List Artifact) :
    allArtifacts (itemsFrom number lines) = .ok artifacts ↔
      List.Forall₂ Decodes (lines.filter fun line => ¬ AllBlank line) artifacts := by
  induction lines generalizing number artifacts with
  | nil => simp [itemsFrom, allArtifacts, eq_comm]
  | cons line lines ih =>
    by_cases hblank : AllBlank line
    · rw [itemsFrom_cons_of_allBlank hblank, ih]
      simp [hblank]
    · rw [itemsFrom_cons_of_not_allBlank hblank, allArtifacts_cons_eq_ok_iff]
      simp only [Except.mapError_eq_ok_iff, ih, hblank, not_false_eq_true, decide_true,
        List.filter_cons_of_pos, List.forall₂_cons_left_iff]
      constructor
      · rintro ⟨artifact, rest, hline, hrest, rfl⟩
        exact ⟨artifact, rest, hline, hrest, rfl⟩
      · rintro ⟨artifact, rest, hline, hrest, rfl⟩
        exact ⟨artifact, rest, hline, hrest, rfl⟩

/-- The first fault is at the first line, or behind it if that line is readable. -/
theorem firstFault_cons_iff {line : List Char} {lines before : List (List Char)}
    {error : Json.Error} :
    FirstFault (line :: lines) before error ↔
      (before = [] ∧ ¬ AllBlank line ∧ parse (Text.trim line) = .error error) ∨
        ∃ rest, before = line :: rest ∧ Readable line ∧ FirstFault lines rest error := by
  constructor
  · rintro ⟨bad, after, hlines, hbefore, hblank, herror⟩
    cases before with
    | nil =>
      obtain ⟨rfl, rfl⟩ := List.cons.inj hlines
      exact .inl ⟨rfl, hblank, herror⟩
    | cons first rest =>
      obtain ⟨rfl, rfl⟩ := List.cons.inj hlines
      refine .inr ⟨rest, rfl, hbefore line List.mem_cons_self, bad, after, rfl, ?_, hblank, herror⟩
      exact fun earlier h => hbefore earlier (List.mem_cons_of_mem _ h)
  · rintro (⟨rfl, hblank, herror⟩ | ⟨rest, rfl, hline, bad, after, rfl, hrest, hblank, herror⟩)
    · exact ⟨line, lines, rfl, by simp, hblank, herror⟩
    · exact ⟨bad, after, rfl, List.forall_mem_cons.mpr ⟨hline, hrest⟩, hblank, herror⟩

/-- The error is that of the first line that is not readable, and names its number. -/
theorem allArtifacts_itemsFrom_eq_error_iff (number : Nat) (lines : List (List Char))
    (error : LineError) :
    allArtifacts (itemsFrom number lines) = .error error ↔
      ∃ before, FirstFault lines before error.error ∧ error.line = number + before.length := by
  induction lines generalizing number with
  | nil => simp [itemsFrom, allArtifacts, FirstFault]
  | cons line lines ih =>
    simp only [firstFault_cons_iff]
    by_cases hblank : AllBlank line
    · rw [itemsFrom_cons_of_allBlank hblank, ih]
      constructor
      · rintro ⟨before, hfault, hline⟩
        refine ⟨line :: before, .inr ⟨before, rfl, .inl hblank, hfault⟩, ?_⟩
        rw [hline, List.length_cons]
        omega
      · rintro ⟨_, ⟨-, hnot, -⟩ | ⟨before, rfl, -, hfault⟩, hline⟩
        · exact absurd hblank hnot
        · refine ⟨before, hfault, ?_⟩
          rw [hline, List.length_cons]
          omega
    · rw [itemsFrom_cons_of_not_allBlank hblank, allArtifacts_cons_eq_error_iff, ih]
      simp only [Except.mapError_eq_ok_iff, Except.mapError_eq_error_iff]
      constructor
      · rintro (⟨cause, hparse, rfl⟩ | ⟨⟨artifact, hparse⟩, before, hfault, hline⟩)
        · exact ⟨[], .inl ⟨rfl, hblank, hparse⟩, rfl⟩
        · refine ⟨line :: before, .inr ⟨before, rfl, .inr ⟨artifact, hparse⟩, hfault⟩, ?_⟩
          rw [hline, List.length_cons]
          omega
      · rintro ⟨_, ⟨rfl, -, hparse⟩ | ⟨before, rfl, hread, hfault⟩, hline⟩
        · obtain rfl : error.line = number := hline
          exact .inl ⟨error.error, hparse, rfl⟩
        · refine .inr ⟨hread.resolve_left hblank, before, hfault, ?_⟩
          rw [hline, List.length_cons]
          omega

/-! ## Lines behind other lines -/

theorem itemsFrom_append (number : Nat) (lines lines' : List (List Char)) :
    itemsFrom number (lines ++ lines') =
      itemsFrom number lines ++ itemsFrom (number + lines.length) lines' := by
  induction lines generalizing number with
  | nil => rfl
  | cons line lines ih =>
    have hnumber : number + 1 + lines.length = number + (lines.length + 1) := by omega
    rw [List.cons_append, List.length_cons, itemsFrom, itemsFrom, ih, hnumber]
    cases lineItem? number line <;> rfl

/-- The artifacts of the one list stand before those of the other, if both lists are read. -/
theorem allArtifacts_append (items items' : List (Except LineError Artifact)) :
    allArtifacts (items ++ items') =
      (allArtifacts items).bind fun artifacts => (allArtifacts items').map (artifacts ++ ·) := by
  induction items with
  | nil =>
    change allArtifacts items' = (allArtifacts items').map fun artifacts => artifacts
    cases allArtifacts items' <;> rfl
  | cons item items ih =>
    cases item with
    | error error => rfl
    | ok artifact =>
      rw [List.cons_append, allArtifacts, allArtifacts, ih]
      cases allArtifacts items <;> cases allArtifacts items' <;> rfl

/-! ## The files of an output -/

/-- A test is what has a profile with the test harness. -/
theorem isTest_eq (artifact : Artifact) :
    artifact.isTest = decide (artifact.profile = some ⟨true⟩) := by
  obtain ⟨_ | ⟨_ | _⟩, files⟩ := artifact <;> rfl

/-- The files of the artifacts that were built with the test harness. -/
def testFilesOf (artifacts : List Artifact) : List Path :=
  (artifacts.filter fun artifact => artifact.profile = some ⟨true⟩).flatMap (·.files)

theorem testFilesOf_append (artifacts artifacts' : List Artifact) :
    testFilesOf (artifacts ++ artifacts') = testFilesOf artifacts ++ testFilesOf artifacts' := by
  simp [testFilesOf]

theorem testFiles_eq (output : List Char) :
    testFiles output = (allArtifacts (items output)).map testFilesOf := by
  rw [testFiles, show isTest = _ from funext isTest_eq]
  rfl

/-- The files are those of the test artifacts among all messages, if every message is read. -/
theorem testFiles_eq_ok_iff (output : List Char) (files : List Path) :
    testFiles output = .ok files ↔
      ∃ artifacts, List.Forall₂ Decodes (messageLines output) artifacts ∧
        testFilesOf artifacts = files := by
  rw [testFiles_eq, Except.map_eq_ok_iff]
  simp only [items, allArtifacts_itemsFrom_eq_ok_iff, messageLines]

/-- The error is that of the first line that is not readable, counted from one. -/
theorem testFiles_eq_error_iff (output : List Char) (error : LineError) :
    testFiles output = .error error ↔
      ∃ before, FirstFault (Text.pieces '\n' output) before error.error ∧
        error.line = before.length + 1 := by
  rw [testFiles, Except.map_eq_error_iff, items, allArtifacts_itemsFrom_eq_error_iff]
  simp only [Nat.add_comm]

end TestCoverage.Artifact
