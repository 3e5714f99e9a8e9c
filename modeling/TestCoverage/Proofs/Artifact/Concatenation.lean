/-
  TestCoverage.Proofs.Artifact.Concatenation

  Output behind other output.  With a line end between the two, the items of the one stand
  before those of the other, and the errors of the second lie so many lines further down.
  Blank lines have no items, so wherever they are added, only line numbers change.
-/
import TestCoverage.Proofs.Artifact.Stream
import TestCoverage.Proofs.Text.Pieces

namespace TestCoverage.Artifact

open Text (AllBlank)

/-! ## Lines further down -/

/-- The error, when so many more lines stand before it. -/
def LineError.behind (count : Nat) (error : LineError) : LineError :=
  { error with line := error.line + count }

/-- The number of a line is in its item only if that is an error. -/
theorem lineItem?_add (number count : Nat) (line : List Char) :
    lineItem? (number + count) line =
      (lineItem? number line).map (·.mapError (·.behind count)) := by
  by_cases hblank : AllBlank line
  · rw [lineItem?_of_allBlank hblank, lineItem?_of_allBlank hblank, Option.map_none]
  · rw [lineItem?_of_not_allBlank hblank, lineItem?_of_not_allBlank hblank, Option.map_some]
    cases parse (Text.trim line) <;> rfl

theorem itemsFrom_add (number count : Nat) (lines : List (List Char)) :
    itemsFrom (number + count) lines =
      (itemsFrom number lines).map (·.mapError (·.behind count)) := by
  induction lines generalizing number with
  | nil => rfl
  | cons line lines ih =>
    have hnumber : number + count + 1 = number + 1 + count := by omega
    rw [itemsFrom, itemsFrom, lineItem?_add, hnumber, ih]
    cases lineItem? number line <;> rfl

theorem items_append (a b : List Char) :
    items (a ++ '\n' :: b) =
      items a ++ (items b).map (·.mapError (·.behind (1 + a.count '\n'))) := by
  have hlength : (Text.pieces '\n' a).length = 1 + a.count '\n' := by
    rw [Text.length_pieces, Nat.add_comm]
  rw [items, Text.pieces_append_separator, itemsFrom_append, itemsFrom_add, hlength]
  rfl

/-! ## All items together -/

/-- Errors that are changed alike do not change which of them is the first. -/
theorem allArtifacts_map_mapError (f : LineError → LineError)
    (items : List (Except LineError Artifact)) :
    allArtifacts (items.map (·.mapError f)) = (allArtifacts items).mapError f := by
  induction items with
  | nil => rfl
  | cons item items ih =>
    cases item with
    | error error => rfl
    | ok artifact =>
      rw [List.map_cons, Except.mapError_ok, allArtifacts, allArtifacts, ih]
      cases allArtifacts items <;> rfl

/-- Items that differ in line numbers only give the same but for a line number. -/
theorem allArtifacts_mapError_congr {items items' : List (Except LineError Artifact)}
    (h : items.map (·.mapError (·.error)) = items'.map (·.mapError (·.error))) :
    (allArtifacts items).mapError (·.error) = (allArtifacts items').mapError (·.error) := by
  induction items generalizing items' with
  | nil =>
    rw [List.map_eq_nil_iff.mp h.symm]
  | cons item items ih =>
    obtain ⟨item', rest, rfl, hitem, hrest⟩ := List.map_eq_cons_iff.mp h.symm
    cases item with
    | error error =>
      obtain ⟨error', rfl, herror⟩ := Except.mapError_eq_error_iff.mp hitem
      simp [allArtifacts, herror]
    | ok artifact =>
      obtain rfl := Except.mapError_eq_ok_iff.mp hitem
      rw [allArtifacts, allArtifacts, Except.mapError_map, Except.mapError_map, ih hrest.symm]

/-! ## Blank lines -/

/-- The lines with blank lines added: before them, between them or behind them. -/
inductive Interspersed : List (List Char) → List (List Char) → Prop where
  | nil : Interspersed [] []
  | line (line : List Char) {lines spaced : List (List Char)} (h : Interspersed lines spaced) :
      Interspersed (line :: lines) (line :: spaced)
  | blank {line : List Char} {lines spaced : List (List Char)} (hblank : AllBlank line)
      (h : Interspersed lines spaced) : Interspersed lines (line :: spaced)

/-- The second text is the first one with blank lines added anywhere. -/
def AddsBlankLines (text spaced : List Char) : Prop :=
  Interspersed (Text.pieces '\n' text) (Text.pieces '\n' spaced)

/-- But for the line numbers, the items are those of the lines that are not blank. -/
theorem map_mapError_itemsFrom (number : Nat) (lines : List (List Char)) :
    (itemsFrom number lines).map (·.mapError (·.error)) =
      (lines.filter fun line => ¬ AllBlank line).map fun line => parse (Text.trim line) := by
  induction lines generalizing number with
  | nil => rfl
  | cons line lines ih =>
    by_cases hblank : AllBlank line
    · rw [itemsFrom_cons_of_allBlank hblank, ih, List.filter_cons_of_neg (by simpa using hblank)]
    · rw [itemsFrom_cons_of_not_allBlank hblank, List.filter_cons_of_pos (by simpa using hblank),
        List.map_cons, List.map_cons, ih]
      cases parse (Text.trim line) <;> rfl

theorem Interspersed.filter_eq {lines spaced : List (List Char)} (h : Interspersed lines spaced) :
    (spaced.filter fun line => ¬ AllBlank line) = lines.filter fun line => ¬ AllBlank line := by
  induction h with
  | nil => rfl
  | line line _ ih => rw [List.filter_cons, List.filter_cons, ih]
  | blank hblank _ ih => rw [List.filter_cons_of_neg (by simpa using hblank), ih]

theorem AddsBlankLines.items_eq {text spaced : List Char} (h : AddsBlankLines text spaced) :
    (items spaced).map (·.mapError (·.error)) = (items text).map (·.mapError (·.error)) := by
  rw [items, items, map_mapError_itemsFrom, map_mapError_itemsFrom, Interspersed.filter_eq h]

/-! ## The law -/

/-- The items of two outputs with a line end between them are those of the one and then those
    of the other, with the errors of the second so many lines further down.  The files are
    those of the one and then those of the other, unless there is an error.  Blank lines that
    are added anywhere change nothing but the line numbers of errors. -/
theorem items_append_newline (a b : List Char) :
    items (a ++ '\n' :: b) =
        items a ++ (items b).map (·.mapError (·.behind (1 + a.count '\n'))) ∧
      testFiles (a ++ '\n' :: b) =
        (match testFiles a, testFiles b with
        | .error error, _ => .error error
        | .ok _, .error error => .error (error.behind (1 + a.count '\n'))
        | .ok files, .ok files' => .ok (files ++ files')) ∧
      ∀ text spaced, AddsBlankLines text spaced →
        (items spaced).map (·.mapError (·.error)) = (items text).map (·.mapError (·.error)) ∧
        (testFiles spaced).mapError (·.error) = (testFiles text).mapError (·.error) := by
  refine ⟨items_append a b, ?_, fun text spaced h => ⟨h.items_eq, ?_⟩⟩
  · rw [testFiles, testFiles, testFiles, items_append, allArtifacts_append,
      allArtifacts_map_mapError]
    cases allArtifacts (items a) with
    | error error => rfl
    | ok artifacts =>
      cases allArtifacts (items b) with
      | error error => rfl
      | ok artifacts' => simp [Except.map, Except.bind]
  · rw [testFiles, testFiles, Except.mapError_map, Except.mapError_map,
      allArtifacts_mapError_congr h.items_eq]

/-- An error on the second line, and on the fourth one once blank lines stand around the first. -/
theorem items_append_newline_blank_around :
    AddsBlankLines "\x7b\x7d\nx".toList "\n\x7b\x7d\n\t\nx\n ".toList ∧
      (testFiles "\n\x7b\x7d\n\t\nx\n ".toList).mapError (·.error) =
        (testFiles "\x7b\x7d\nx".toList).mapError (·.error) ∧
      (testFiles "\x7b\x7d\nx".toList).mapError (·.line) = .error 2 ∧
      (testFiles "\n\x7b\x7d\n\t\nx\n ".toList).mapError (·.line) = .error 4 := by
  have hadds : AddsBlankLines "\x7b\x7d\nx".toList "\n\x7b\x7d\n\t\nx\n ".toList :=
    .blank (by decide) (.line _ (.blank (by decide) (.line _ (.blank (by decide) .nil))))
  exact ⟨hadds, ((items_append_newline [] []).2.2 _ _ hadds).2, by decide +kernel,
    by decide +kernel⟩

end TestCoverage.Artifact
