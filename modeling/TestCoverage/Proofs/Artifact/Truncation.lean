/-
  TestCoverage.Proofs.Artifact.Truncation

  Output that is cut off.  The lines before the last one are those of the whole output, and
  the last one is a beginning of a line.  A beginning of a message is no message, so what is
  cut off either leaves the messages before it alone or is noticed.
-/
import TestCoverage.Proofs.Artifact.Line
import TestCoverage.Proofs.Text.Pieces

namespace TestCoverage.Artifact

open Text (AllBlank firstPiece lastPiece)

/-! ## One line -/

/-- A line that is read is not read any more once something of its message is missing. -/
theorem not_decodes_of_lost {line lost : List Char} {artifact : Artifact}
    (h : Decodes (line ++ lost) artifact) (hlost : ¬ AllBlank lost) (artifact' : Artifact) :
    ¬ Decodes line artifact' := by
  intro h'
  obtain ⟨before, value, written, after, hbefore, hvalue, hmeaning, hafter, hline⟩ :=
    decodes_iff.mp h
  obtain ⟨before', value', written', after', hbefore', hvalue', hmeaning', -, rfl⟩ :=
    decodes_iff.mp h'
  -- Both values begin with the first character that is not white space.
  have hstart := congrArg Text.trimStart hline
  simp only [List.append_assoc] at hstart
  rw [Text.trimStart_append hbefore, Text.trimStart_append hbefore',
    (tight_of_artifact? hvalue hmeaning).trimStart_append
      (List.ne_nil_of_length_pos hvalue.length_pos),
    (tight_of_artifact? hvalue' hmeaning').trimStart_append
      (List.ne_nil_of_length_pos hvalue'.length_pos)] at hstart
  -- So they are one value, and only white space is missing.
  have hrest : after' ++ lost = after :=
    reads_artifact.eq_of_append_eq hvalue' hmeaning' hvalue hmeaning hstart
  rw [← hrest] at hafter
  exact hlost (Text.allBlank_append_iff.mp hafter).2

/-- The item of a line that is not blank and not read is an error of that line. -/
theorem exists_itemsFrom_singleton {number : Nat} {line : List Char} (hblank : ¬ AllBlank line)
    (h : ∀ artifact, ¬ Decodes line artifact) :
    ∃ error : LineError, itemsFrom number [line] = [.error error] ∧ error.line = number := by
  rw [itemsFrom_cons_of_not_allBlank hblank]
  cases hparse : parse (Text.trim line) with
  | ok artifact => exact absurd hparse (h artifact)
  | error error => exact ⟨⟨number, error⟩, rfl, rfl⟩

/-- A line that is not blank is read if the lines from it on are. -/
theorem exists_decodes_of_allArtifacts {number : Nat} {line : List Char}
    {lines : List (List Char)} {artifacts : List Artifact} (hblank : ¬ AllBlank line)
    (h : allArtifacts (itemsFrom number (line :: lines)) = .ok artifacts) :
    ∃ artifact others, Decodes line artifact ∧ artifacts = artifact :: others := by
  rw [itemsFrom_cons_of_not_allBlank hblank, allArtifacts_cons_eq_ok_iff] at h
  obtain ⟨artifact, others, hitem, -, rfl⟩ := h
  exact ⟨artifact, others, Except.mapError_eq_ok_iff.mp hitem, rfl⟩

/-! ## The whole output -/

/-- Between the two parts lies the message of a line, with something of it on either side. -/
def CutsMessage (before behind : List Char) : Prop :=
  ¬ AllBlank (lastPiece '\n' before) ∧ ¬ AllBlank (firstPiece '\n' behind)

instance (before behind : List Char) : Decidable (CutsMessage before behind) :=
  inferInstanceAs (Decidable (_ ∧ _))

/-- The lines that are whole are read if the output is read, and the line that is cut is
    read if it is read in the output. -/
theorem exists_allArtifacts_of_testFiles {init tail : List (List Char)} {line : List Char}
    {files : List Path}
    (h : (allArtifacts (itemsFrom 1 (init ++ line :: tail))).map testFilesOf = .ok files) :
    ∃ artifacts rest, allArtifacts (itemsFrom 1 init) = .ok artifacts ∧
      allArtifacts (itemsFrom (init.length + 1) (line :: tail)) = .ok rest ∧
      files = testFilesOf artifacts ++ testFilesOf rest := by
  obtain ⟨all, hall, rfl⟩ := Except.map_eq_ok_iff.mp h
  rw [itemsFrom_append, allArtifacts_append] at hall
  obtain ⟨artifacts, hartifacts, hall⟩ := Except.bind_eq_ok_iff.mp hall
  obtain ⟨rest, hrest, rfl⟩ := Except.map_eq_ok_iff.mp hall
  rw [Nat.add_comm] at hrest
  exact ⟨artifacts, rest, hartifacts, hrest, testFilesOf_append ..⟩

/-- What is left of output that is read: if a message is cut, the error names the last line;
    otherwise the files are the first ones of the whole output.  In particular a message of
    which something is missing is not read. -/
theorem testFiles_of_truncated {before behind : List Char} {files : List Path}
    (h : testFiles (before ++ behind) = .ok files) :
    (CutsMessage before behind →
      ∃ error, testFiles before = .error error ∧ error.line = 1 + before.count '\n') ∧
    (¬ CutsMessage before behind →
      ∃ files', testFiles before = .ok files' ∧ files' <+: files) ∧
    ∀ line lost artifact, Decodes (line ++ lost) artifact → ¬ AllBlank lost →
      ∀ artifact', ¬ Decodes line artifact' := by
  obtain ⟨init, hbefore⟩ := Text.exists_lastPiece '\n' before
  obtain ⟨tail, hbehind⟩ := Text.exists_firstPiece '\n' behind
  rw [testFiles_eq, items, Text.pieces_append hbefore hbehind] at h
  obtain ⟨artifacts, rest, hinit, hrest, rfl⟩ := exists_allArtifacts_of_testFiles h
  have hlength : init.length + 1 = 1 + before.count '\n' := by
    have hcount := Text.length_pieces '\n' before
    rw [hbefore, List.length_append, List.length_singleton] at hcount
    omega
  -- The cut line comes behind lines that are all read.
  have hcut : testFiles before =
      (allArtifacts (itemsFrom (init.length + 1) [lastPiece '\n' before])).map
        fun rest => testFilesOf artifacts ++ testFilesOf rest := by
    rw [testFiles_eq, items, hbefore, itemsFrom_append, allArtifacts_append, hinit, Nat.add_comm 1]
    cases allArtifacts (itemsFrom (init.length + 1) [lastPiece '\n' before]) with
    | error error => rfl
    | ok rest => exact congrArg Except.ok (testFilesOf_append ..)
  have hline : ¬ AllBlank (lastPiece '\n' before) →
      ¬ AllBlank (lastPiece '\n' before ++ firstPiece '\n' behind) :=
    fun hlast hblank => hlast (Text.allBlank_append_iff.mp hblank).1
  refine ⟨?_, ?_, fun line lost artifact => not_decodes_of_lost⟩
  · rintro ⟨hlast, hfirst⟩
    -- In the whole output the line is read, so what is left of it is not.
    obtain ⟨artifact, -, hdecodes, -⟩ := exists_decodes_of_allArtifacts (hline hlast) hrest
    obtain ⟨error, hitem, hnumber⟩ :=
      exists_itemsFrom_singleton hlast (not_decodes_of_lost hdecodes hfirst)
    refine ⟨error, ?_, hnumber.trans hlength⟩
    rw [hcut, hitem]
    rfl
  · intro hnocut
    by_cases hlast : AllBlank (lastPiece '\n' before)
    · refine ⟨testFilesOf artifacts, ?_, List.prefix_append ..⟩
      rw [hcut, itemsFrom_cons_of_allBlank hlast]
      exact congrArg Except.ok (List.append_nil _)
    · -- Nothing but white space is missing from the line.
      have hfirst : AllBlank (firstPiece '\n' behind) :=
        Decidable.not_not.mp fun hfirst => hnocut ⟨hlast, hfirst⟩
      obtain ⟨artifact, others, hdecodes, rfl⟩ :=
        exists_decodes_of_allArtifacts (hline hlast) hrest
      rw [decodes_append_iff hfirst] at hdecodes
      refine ⟨testFilesOf artifacts ++ testFilesOf [artifact], ?_, testFilesOf others, ?_⟩
      · rw [hcut, itemsFrom_cons_of_not_allBlank hlast, hdecodes]
        rfl
      · rw [List.append_assoc, ← testFilesOf_append, List.singleton_append]

/-- The cut lies within the second message. -/
theorem testFiles_of_truncated_second_message :
    testFiles ("[[true], [\"t\"]]\n[null, [\"".toList ++ "u\"]]\n".toList) =
        .ok [[0x74]] ∧
      CutsMessage "[[true], [\"t\"]]\n[null, [\"".toList "u\"]]\n".toList ∧
      ∃ error, testFiles "[[true], [\"t\"]]\n[null, [\"".toList = .error error ∧
        error.line = 1 + "[[true], [\"t\"]]\n[null, [\"".toList.count '\n' := by
  have hread : testFiles ("[[true], [\"t\"]]\n[null, [\"".toList ++
      "u\"]]\n".toList) = .ok [[0x74]] := by decide +kernel
  have hcut : CutsMessage "[[true], [\"t\"]]\n[null, [\"".toList
      "u\"]]\n".toList := by decide +kernel
  exact ⟨hread, hcut, (testFiles_of_truncated hread).1 hcut⟩

end TestCoverage.Artifact
