/-
  TestCoverage.Proofs.Artifact.Items

  The items of the build tool's output and its lines.  Each line that is not blank gives one
  item, which depends on the trimmed line and, if it is an error, on the number of the line.
  The files of the output are those of all items, unless one is an error.
-/
import TestCoverage.Proofs.Artifact.Stream
import TestCoverage.Proofs.Text.Lines

namespace TestCoverage.Artifact

open Text (AllBlank IsLine placed)

/-! ## One item for each line -/

/-- The item of a line that stands behind `before`.  Lines are numbered from one, blank lines
    included. -/
def itemAt (before line : List Char) : Except LineError Artifact :=
  (parse (Text.trim line)).mapError fun error => ⟨1 + before.count '\n', error⟩

/-- The lines of the output that are not blank, with what stands before each of them. -/
def messagesAt (output : List Char) : List (List Char × List Char) :=
  (placed [] (Text.pieces '\n' output)).filter fun place => ¬ AllBlank place.2

/-- Lines of the text that are not blank, each with what stands before it: all of them, in
    order, and nothing else. -/
structure ListsMessages (output : List Char) (places : List (List Char × List Char)) : Prop where
  increasing : places.Pairwise fun a b => a.1.length < b.1.length
  mem_iff : ∀ before line, (before, line) ∈ places ↔
    IsLine output before line ∧ ∃ c ∈ line, Text.isBlank c = false

theorem listsMessages_messagesAt (output : List Char) :
    ListsMessages output (messagesAt output) where
  increasing := by
    refine (Text.pairwise_placed [] _).filter _ |>.imp fun hprefix => ?_
    have hlength := hprefix.length_le
    simp only [List.length_append, List.length_singleton] at hlength
    omega
  mem_iff before line := by
    rw [messagesAt, List.mem_filter, Text.mem_placed_iff]
    simp [AllBlank]

/-- The number of a later line is larger. -/
theorem pairwise_count_messagesAt (output : List Char) :
    (messagesAt output).Pairwise fun a b => a.1.count '\n' < b.1.count '\n' := by
  refine (Text.pairwise_placed [] _).filter _ |>.imp fun hprefix => ?_
  have hcount := hprefix.sublist.count_le '\n'
  rw [List.count_append, List.count_append, List.count_singleton_self] at hcount
  omega

/-- The items of numbered lines, when the text before the first line is known. -/
theorem itemsFrom_eq_map_placed (before : List Char) (lines : List (List Char))
    (hlines : ∀ line ∈ lines, '\n' ∉ line) :
    itemsFrom (1 + before.count '\n') lines =
      ((placed before lines).filter fun place => ¬ AllBlank place.2).map fun place =>
        itemAt place.1 place.2 := by
  induction lines generalizing before with
  | nil => rfl
  | cons line lines ih =>
    obtain ⟨hline, hlines⟩ := List.forall_mem_cons.mp hlines
    have hnumber : 1 + (before ++ (line ++ ['\n'])).count '\n' = 1 + before.count '\n' + 1 := by
      rw [List.count_append, List.count_append, List.count_eq_zero_of_not_mem hline,
        List.count_singleton_self]
      omega
    have hrest := ih (before ++ (line ++ ['\n'])) hlines
    rw [hnumber] at hrest
    by_cases hblank : AllBlank line
    · rw [itemsFrom_cons_of_allBlank hblank, hrest, placed]
      simp [hblank]
    · rw [itemsFrom_cons_of_not_allBlank hblank, hrest, placed]
      simp [hblank, itemAt]

theorem items_eq_map_messagesAt (output : List Char) :
    items output = (messagesAt output).map fun place => itemAt place.1 place.2 :=
  itemsFrom_eq_map_placed [] _ fun _ => Text.not_mem_of_mem_pieces

/-! ## Errors among the items -/

/-- The error of an item, if it is one. -/
def fault? : Except LineError Artifact → Option LineError
  | .ok _ => none
  | .error error => some error

theorem line_of_fault?_itemAt {before line : List Char} {error : LineError}
    (h : fault? (itemAt before line) = some error) : error.line = 1 + before.count '\n' := by
  rw [itemAt] at h
  cases hparse : parse (Text.trim line) with
  | ok artifact => simp [hparse, fault?] at h
  | error cause =>
    simp only [hparse, Except.mapError_error, fault?, Option.some.injEq] at h
    rw [← h]

/-- The numbers of the lines with errors increase. -/
theorem pairwise_faults (output : List Char) :
    ((items output).filterMap fault?).Pairwise fun a b => a.line < b.line := by
  rw [items_eq_map_messagesAt, List.filterMap_map, List.pairwise_filterMap]
  refine (pairwise_count_messagesAt output).imp fun hcount a ha b hb => ?_
  rw [line_of_fault?_itemAt ha, line_of_fault?_itemAt hb]
  omega

/-! ## All items together -/

/-- All artifacts are there if no item is an error. -/
theorem allArtifacts_eq_ok_iff {items : List (Except LineError Artifact)}
    {artifacts : List Artifact} :
    allArtifacts items = .ok artifacts ↔ items = artifacts.map .ok := by
  induction items generalizing artifacts with
  | nil => simp [allArtifacts, eq_comm]
  | cons item items ih =>
    rw [allArtifacts_cons_eq_ok_iff]
    constructor
    · rintro ⟨artifact, rest, rfl, hrest, rfl⟩
      rw [ih.mp hrest, List.map_cons]
    · intro h
      cases artifacts with
      | nil => cases h
      | cons artifact rest =>
        obtain ⟨rfl, hrest⟩ := List.cons.inj h
        exact ⟨artifact, rest, rfl, ih.mpr hrest, rfl⟩

/-- The error is the first one among the items. -/
theorem allArtifacts_eq_error_iff {items : List (Except LineError Artifact)}
    {error : LineError} :
    allArtifacts items = .error error ↔
      ∃ before after, items = List.map .ok before ++ .error error :: after := by
  induction items with
  | nil => simp [allArtifacts]
  | cons item items ih =>
    rw [allArtifacts_cons_eq_error_iff, ih]
    constructor
    · rintro (rfl | ⟨⟨artifact, rfl⟩, before, after, rfl⟩)
      · exact ⟨[], items, rfl⟩
      · exact ⟨artifact :: before, after, rfl⟩
    · rintro ⟨_ | ⟨artifact, before⟩, after, h⟩
      · exact .inl (List.cons.inj h).1
      · obtain ⟨rfl, hitems⟩ := List.cons.inj h
        exact .inr ⟨⟨artifact, rfl⟩, before, after, hitems⟩

/-- The items are those of the lines that are not blank, in order, each from its trimmed line
    alone but for the line number of an error; these numbers increase.  The output as a whole
    has the first error among its items, or else the files of the test artifacts. -/
theorem items_follow_lines (output : List Char) :
    (∃ places, ListsMessages output places ∧
      items output = places.map fun place => itemAt place.1 place.2) ∧
    ((items output).filterMap fault?).Pairwise (fun a b => a.line < b.line) ∧
    (∀ error, testFiles output = .error error ↔
      ∃ before after, items output = List.map .ok before ++ .error error :: after) ∧
    ∀ files, testFiles output = .ok files ↔
      ∃ artifacts, items output = List.map .ok artifacts ∧
        files = testFilesOf artifacts := by
  refine ⟨⟨messagesAt output, listsMessages_messagesAt output, items_eq_map_messagesAt output⟩,
    pairwise_faults output, fun error => ?_, fun files => ?_⟩
  · rw [testFiles, Except.map_eq_error_iff, allArtifacts_eq_error_iff]
  · simp only [testFiles_eq, Except.map_eq_ok_iff, allArtifacts_eq_ok_iff, eq_comm (a := files)]

end TestCoverage.Artifact
