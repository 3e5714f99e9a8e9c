/-
  TestCoverage.Proofs.Artifact.Records

  What a build tool writes and what is read of it.  A record may be written in many ways: its
  members in any order, with others between them, every character in any spelling, with white
  space between tokens and blank lines between records.  None of that matters.
-/
import TestCoverage.Proofs.Artifact.Line
import TestCoverage.Proofs.Json.Writable
import TestCoverage.Proofs.Text.Pieces

namespace TestCoverage.Artifact

open Json (IsValue IsDocument Member Gives Others SpellsText Value Writable WritableMember
  writable_boolean writable_list writable_object exists_gives)
open Text (AllBlank)

/-! ## Records -/

/-- What a record says of the profile, if it says anything. -/
inductive ProfileEntry where
  | null
  | object (test : Option Bool)
deriving DecidableEq, Repr

/-- What the build tool has to say: the entries for a profile and for files, either of which
    may be left out. -/
structure Record where
  profile : Option ProfileEntry
  files : Option (List (List Char))
deriving DecidableEq, Repr

/-- The profile that the entry stands for. -/
def ProfileEntry.profile? : ProfileEntry → Option Profile
  | .null => none
  | .object test => some ⟨test.getD false⟩

/-- The artifact that the record stands for. -/
def Record.artifact (record : Record) : Artifact where
  profile := record.profile.bind ProfileEntry.profile?
  files := (record.files.getD []).map Utf8.encode

/-- The files of the records with a test profile, in order. -/
def testFilesOfRecords (records : List Record) : List Path :=
  (records.filter fun record => record.profile = some (.object (some true))).flatMap
    fun record => (record.files.getD []).map Utf8.encode

/-! ## How records are written -/

/-- A truth value as a value. -/
def WritesBoolean (test : Bool) (value : Value) : Prop :=
  value = .boolean test

/-- A text as a value, in any spelling. -/
def WritesText (text : List Char) (value : Value) : Prop :=
  ∃ pieces, SpellsText text pieces ∧ value = .string pieces

/-- Files as a value. -/
def WritesFiles (files : List (List Char)) (value : Value) : Prop :=
  ∃ elements, List.Forall₂ WritesText files elements ∧ value = .list elements

/-- A profile as a value.  Further members of a profile may have any values. -/
inductive WritesProfile : ProfileEntry → Value → Prop where
  | null : WritesProfile .null .null
  | object {test : Option Bool} {members own others : List Member}
      (hperm : members.Perm (own ++ others)) (hown : Gives "test" WritesBoolean test own)
      (hothers : Others ["test"] others) : WritesProfile (.object test) (.object members)

/-- A record as a value.  Further members of a record may have any values. -/
inductive WritesRecord : Record → Value → Prop where
  | object {record : Record} {members profile files others : List Member}
      (hperm : members.Perm (profile ++ (files ++ others)))
      (hprofile : Gives "profile" WritesProfile record.profile profile)
      (hfiles : Gives "filenames" WritesFiles record.files files)
      (hothers : Others ["profile", "filenames"] others) :
      WritesRecord record (.object members)

/-- A line with a record. -/
def IsMessage (record : Record) (line : List Char) : Prop :=
  '\n' ∉ line ∧ ∃ value, WritesRecord record value ∧ IsDocument value line

/-- The end of a line. -/
def IsLineEnd (text : List Char) : Prop :=
  text = ['\n'] ∨ text = ['\r', '\n']

/-- Output with these records: each on a line of its own, and any blank lines. -/
inductive IsOutput : List Record → List Char → Prop where
  | blank {line : List Char} (hblank : AllBlank line) (hline : '\n' ∉ line) : IsOutput [] line
  | message {record : Record} {line : List Char} (hmessage : IsMessage record line) :
      IsOutput [record] line
  | blankLine {records : List Record} {line lineEnd rest : List Char} (hblank : AllBlank line)
      (hline : '\n' ∉ line) (hend : IsLineEnd lineEnd) (hrest : IsOutput records rest) :
      IsOutput records (line ++ (lineEnd ++ rest))
  | messageLine {record : Record} {records : List Record} {line lineEnd rest : List Char}
      (hmessage : IsMessage record line) (hend : IsLineEnd lineEnd)
      (hrest : IsOutput records rest) : IsOutput (record :: records) (line ++ (lineEnd ++ rest))

/-! ## What records are read as -/

theorem profile?_of_writesProfile {entry : ProfileEntry} {value : Value}
    (h : WritesProfile entry value) : Json.option? profile? value = some entry.profile? := by
  cases h with
  | null => rfl
  | @object test members own others hperm hown hothers =>
    have hnamed : Json.Named members := fun member hmember =>
      (List.forall_mem_append.mpr ⟨hown.named, hothers.named⟩) member (hperm.mem_iff.mp hmember)
    have htest : Json.member? "test" Json.boolean? false members = some (test.elim false id) :=
      hown.member?_eq (fun _ _ hvalue => hvalue ▸ rfl) hperm
        (hothers.valuesOf_eq_nil (by simp))
    rw [Json.option?_of_ne profile? (by simp), profile?, if_pos hnamed, htest]
    cases test <;> rfl

theorem path?_of_writesText {text : List Char} {value : Value} (h : WritesText text value) :
    path? value = some (Utf8.encode text) := by
  obtain ⟨pieces, hspells, rfl⟩ := h
  rw [path?, Json.text?, hspells.unescape?_eq, Option.map_some]

theorem list?_of_writesFiles {files : List (List Char)} {value : Value}
    (h : WritesFiles files value) :
    Json.list? path? value = some (files.map Utf8.encode) := by
  obtain ⟨elements, helements, rfl⟩ := h
  rw [Json.list?]
  induction helements with
  | nil => rfl
  | cons htext _ ih =>
    rw [List.mapM_cons, path?_of_writesText htext, ih]
    rfl

/-- However a record is written, its artifact is read. -/
theorem artifact?_of_writesRecord {record : Record} {value : Value}
    (h : WritesRecord record value) : artifact? value = some record.artifact := by
  cases h with
  | @object members profile files others hperm hprofile hfiles hothers =>
    have hnamed : Json.Named members := fun member hmember =>
      (List.forall_mem_append.mpr
        ⟨hprofile.named, List.forall_mem_append.mpr ⟨hfiles.named, hothers.named⟩⟩) member
        (hperm.mem_iff.mp hmember)
    have hprofileRead : Json.member? "profile" (Json.option? profile?) none members = _ :=
      hprofile.member?_eq (fun _ _ hvalue => profile?_of_writesProfile hvalue) hperm
        (by rw [Json.valuesOf_append, hfiles.valuesOf_of_ne (by decide),
          hothers.valuesOf_eq_nil (by simp), List.append_nil])
    -- Seen from the files, the members for the profile are among the others.
    have hperm' : members.Perm (files ++ (profile ++ others)) := by
      refine hperm.trans ?_
      rw [← List.append_assoc, ← List.append_assoc]
      exact List.perm_append_comm.append_right others
    have hfilesRead : Json.member? "filenames" (Json.list? path?) [] members = _ :=
      hfiles.member?_eq (fun _ _ hvalue => list?_of_writesFiles hvalue) hperm'
        (by rw [Json.valuesOf_append, hprofile.valuesOf_of_ne (by decide),
          hothers.valuesOf_eq_nil (by simp), List.append_nil])
    rw [artifact?, if_pos hnamed, hprofileRead, hfilesRead, Record.artifact]
    cases record.profile <;> cases record.files <;> rfl

theorem decodes_of_isMessage {record : Record} {line : List Char}
    (h : IsMessage record line) : Decodes line record.artifact := by
  obtain ⟨-, value, hrecord, before, written, after, hbefore, hvalue, hafter, rfl⟩ := h
  exact decodes_iff.mpr ⟨before, value, written, after, hbefore.allBlank, hvalue,
    artifact?_of_writesRecord hrecord, hafter.allBlank, rfl⟩

/-! ## Every record can be written -/

theorem exists_writesText (text : List Char) :
    ∃ value, WritesText text value ∧ Writable value := by
  obtain ⟨pieces, hspells, hwritable⟩ := Json.exists_writable_string text
  exact ⟨.string pieces, ⟨pieces, hspells, rfl⟩, hwritable⟩

theorem exists_writesFiles (files : List (List Char)) :
    ∃ value, WritesFiles files value ∧ Writable value := by
  have helements : ∃ elements, List.Forall₂ WritesText files elements ∧
      ∀ element ∈ elements, Writable element := by
    induction files with
    | nil => exact ⟨[], .nil, List.forall_mem_nil _⟩
    | cons file files ih =>
      obtain ⟨value, htext, hvalue⟩ := exists_writesText file
      obtain ⟨elements, htexts, helements⟩ := ih
      exact ⟨_, .cons htext htexts, List.forall_mem_cons.mpr ⟨hvalue, helements⟩⟩
  obtain ⟨elements, htexts, helements⟩ := helements
  exact ⟨_, ⟨elements, htexts, rfl⟩, writable_list helements⟩

theorem exists_writesProfile (entry : ProfileEntry) :
    ∃ value, WritesProfile entry value ∧ Writable value := by
  cases entry with
  | null => exact ⟨.null, .null, _, .null, by decide⟩
  | object test =>
    have hboolean (test : Bool) : ∃ value, WritesBoolean test value ∧ Writable value :=
      ⟨.boolean test, rfl, writable_boolean test⟩
    obtain ⟨own, hown, hwritable⟩ := exists_gives "test" hboolean test
    have hperm : own.Perm (own ++ []) := by rw [List.append_nil]
    exact ⟨_, .object hperm hown (List.forall_mem_nil _), writable_object hwritable⟩

theorem exists_isMessage (record : Record) : ∃ line, IsMessage record line := by
  obtain ⟨profile, hprofile, hprofileLine⟩ :=
    exists_gives "profile" exists_writesProfile record.profile
  obtain ⟨files, hfiles, hfilesLine⟩ := exists_gives "filenames" exists_writesFiles record.files
  obtain ⟨written, hvalue, hline⟩ :=
    writable_object (List.forall_mem_append.mpr ⟨hprofileLine, hfilesLine⟩)
  have hperm : (profile ++ files).Perm (profile ++ (files ++ [])) := by rw [List.append_nil]
  refine ⟨written, hline, _, .object hperm hprofile hfiles (List.forall_mem_nil _), [], written,
    [], Json.spaces_nil, hvalue, Json.spaces_nil, ?_⟩
  rw [List.nil_append, List.append_nil]

theorem exists_isOutput (records : List Record) : ∃ output, IsOutput records output := by
  induction records with
  | nil => exact ⟨[], .blank Text.allBlank_nil List.not_mem_nil⟩
  | cons record records ih =>
    obtain ⟨line, hmessage⟩ := exists_isMessage record
    obtain ⟨rest, hrest⟩ := ih
    exact ⟨_, .messageLine hmessage (.inl rfl) hrest⟩

/-! ## What output is read as -/

/-- A line and its end are one line and the lines behind it.  What the end of the line leaves
    on the line is white space. -/
theorem exists_pieces_of_isLineEnd {line lineEnd : List Char} (hline : '\n' ∉ line)
    (hend : IsLineEnd lineEnd) (rest : List Char) :
    ∃ return', AllBlank return' ∧
      Text.pieces '\n' (line ++ (lineEnd ++ rest)) =
        (line ++ return') :: Text.pieces '\n' rest := by
  rcases hend with rfl | rfl
  · refine ⟨[], Text.allBlank_nil, ?_⟩
    rw [List.append_nil]
    exact Text.pieces_append_cons hline rest
  · refine ⟨['\r'], by decide, ?_⟩
    have hreturn : '\n' ∉ line ++ ['\r'] := by simp [hline]
    rw [← Text.pieces_append_cons hreturn rest]
    simp

/-- The messages of the output are its records, one on each line that is not blank. -/
theorem forall₂_of_isOutput {records : List Record} {output : List Char}
    (h : IsOutput records output) :
    List.Forall₂ Decodes (messageLines output) (records.map Record.artifact) := by
  induction h with
  | @blank line hblank hline =>
    rw [messageLines, Text.pieces_of_not_mem hline, List.filter_cons_of_neg (by simpa using hblank)]
    exact .nil
  | @message record line hmessage =>
    have hdecodes := decodes_of_isMessage hmessage
    rw [messageLines, Text.pieces_of_not_mem hmessage.1,
      List.filter_cons_of_pos (by simpa using hdecodes.not_allBlank)]
    exact .cons hdecodes .nil
  | @blankLine records line lineEnd rest hblank hline hend _ ih =>
    obtain ⟨return', hreturn, hpieces⟩ := exists_pieces_of_isLineEnd hline hend rest
    have hall : AllBlank (line ++ return') := Text.allBlank_append_iff.mpr ⟨hblank, hreturn⟩
    rw [messageLines, hpieces, List.filter_cons_of_neg (by simpa using hall)]
    exact ih
  | @messageLine record records line lineEnd rest hmessage hend _ ih =>
    obtain ⟨return', hreturn, hpieces⟩ := exists_pieces_of_isLineEnd hmessage.1 hend rest
    have hdecodes := (decodes_append_iff hreturn).mpr (decodes_of_isMessage hmessage)
    rw [messageLines, hpieces, List.filter_cons_of_pos (by simpa using hdecodes.not_allBlank)]
    exact .cons hdecodes ih

theorem profile_artifact (record : Record) :
    record.artifact.profile = some ⟨true⟩ ↔ record.profile = some (.object (some true)) := by
  obtain ⟨profile, files⟩ := record
  rcases profile with _ | _ | _ | _ | _ <;> simp [Record.artifact, ProfileEntry.profile?]

/-- Any records can be written, and whatever way they are, exactly the files of the test
    records are read, in the order of the records. -/
theorem testFiles_of_written (records : List Record) :
    (∃ output, IsOutput records output) ∧
      ∀ output, IsOutput records output → testFiles output = .ok (testFilesOfRecords records) := by
  refine ⟨exists_isOutput records, fun output h => ?_⟩
  refine (testFiles_eq_ok_iff output _).mpr
    ⟨records.map Record.artifact, forall₂_of_isOutput h, ?_⟩
  rw [testFilesOf, List.filter_map, List.flatMap_map, testFilesOfRecords]
  simp only [Function.comp_def, profile_artifact]
  rfl

/-- A record behind a blank line: its files come before its profile, the one file is written by
    its number, and white space stands between the tokens. -/
theorem testFiles_of_written_escaped :
    IsOutput [⟨some (.object (some true)), some [['é']]⟩]
        " \r\n\x7b\"filenames\": [\"\\u00e9\"],\t\"profile\":\x7b\"test\":true\x7d\x7d\r\n".toList ∧
      testFiles
        " \r\n\x7b\"filenames\": [\"\\u00e9\"],\t\"profile\":\x7b\"test\":true\x7d\x7d\r\n".toList =
          .ok [[0xC3, 0xA9]] := by
  have hblank : Json.Spaces [' '] := by simp [Json.Spaces]
  have htab : Json.Spaces ['\t'] := by simp [Json.Spaces]
  have hname (name : List Char) (h : name.all fun c => c ≠ '"' ∧ c ≠ '\\' ∧ 0x20 ≤ c.toNat) :=
    Json.isPieces_char fun c hc => of_decide_eq_true (List.all_eq_true.mp h c hc)
  have hpiece : Json.IsPiece (.unit 'é'.toNat) "\\u00e9".toList :=
    Json.hexUnit?_eq_some_iff.mp rfl
  have hfiles : IsValue (.list [.string [.unit 'é'.toNat]]) _ :=
    .list (.items Json.spaces_nil (.string (.cons hpiece .nil)) (.close Json.spaces_nil))
  have hprofile : IsValue (.object [(['t', 'e', 's', 't'].map .char, .boolean true)]) _ :=
    .object (.items Json.spaces_nil (.colon (hname _ (by decide)) Json.spaces_nil
      Json.spaces_nil .true) (.close Json.spaces_nil))
  have hvalue := IsValue.object (.items Json.spaces_nil
    (.colon (hname "filenames".toList (by decide)) Json.spaces_nil hblank hfiles)
    (.item Json.spaces_nil htab
      (.colon (hname "profile".toList (by decide)) Json.spaces_nil Json.spaces_nil hprofile)
      (.close Json.spaces_nil)))
  have hmessage : IsMessage ⟨some (.object (some true)), some [['é']]⟩
      "\x7b\"filenames\": [\"\\u00e9\"],\t\"profile\":\x7b\"test\":true\x7d\x7d".toList := by
    refine ⟨by decide, _, ?_, [], _, [], Json.spaces_nil, hvalue, Json.spaces_nil, by decide⟩
    have hspells : SpellsText ['é'] [.unit 'é'.toNat] := .cons (.unit (by decide)) .nil
    exact .object (List.Perm.swap ..) (.given (Json.spellsText_char _) (.object (.refl _)
      (.given (Json.spellsText_char _) rfl) (List.forall_mem_nil _)))
      (.given (Json.spellsText_char _) ⟨_, .cons ⟨_, hspells, rfl⟩ .nil, rfl⟩)
      (List.forall_mem_nil _)
  have hspace : AllBlank [' '] := by decide
  have hend : IsLineEnd ['\r', '\n'] := .inr rfl
  have houtput := IsOutput.blankLine hspace (by decide) hend
    (.messageLine hmessage hend (.blank Text.allBlank_nil List.not_mem_nil))
  exact ⟨houtput, (testFiles_of_written _).2 _ houtput⟩

end TestCoverage.Artifact
