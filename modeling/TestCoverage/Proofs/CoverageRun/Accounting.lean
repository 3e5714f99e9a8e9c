/-
  TestCoverage.Proofs.CoverageRun.Accounting

  What a run that keeps going accounts for.  It makes one collection for each file, and the
  files that it reports are those at the places where a collection failed.  A file that is
  listed several times is reported as often as its collection failed, so the account goes
  by places and not by names.
-/
import TestCoverage.Proofs.CoverageRun.Course

namespace TestCoverage.CoverageRun

open Dialogue (Played)

/-! ## Places -/

/-- These are the places with a property, in order. -/
structure PlacesOf (P : Nat → Prop) (places : List Nat) : Prop where
  increasing : places.Pairwise (· < ·)
  mem_iff : ∀ i, i ∈ places ↔ P i

theorem placesOf_range_filter (count : Nat) (P : Nat → Prop) [DecidablePred P] :
    PlacesOf (fun i => i < count ∧ P i) ((List.range count).filter fun i => P i) where
  increasing := List.pairwise_lt_range.filter _
  mem_iff i := by simp

theorem PlacesOf.congr {P Q : Nat → Prop} {places : List Nat} (h : PlacesOf P places)
    (hPQ : ∀ i, P i ↔ Q i) : PlacesOf Q places where
  increasing := h.increasing
  mem_iff i := (h.mem_iff i).trans (hPQ i)

/-! ## Failed files -/

/-- The places of the failed collections, the first file being at place zero. -/
def failedPlaces (reply : Nat → Response) (start count : Nat) : List Nat :=
  (List.range count).filter fun i => ¬ (reply (start + i)).Succeeds

/-- The places of the successful collections. -/
def succeededPlaces (reply : Nat → Response) (start count : Nat) : List Nat :=
  (List.range count).filter fun i => (reply (start + i)).Succeeds

theorem failedPlaces_succ (reply : Nat → Response) (start count : Nat) :
    failedPlaces reply start (count + 1) =
      if (reply start).Succeeds then (failedPlaces reply (start + 1) count).map (· + 1)
      else 0 :: (failedPlaces reply (start + 1) count).map (· + 1) := by
  have hrest : ((List.range count).map (· + 1)).filter
      (fun i => decide ¬ (reply (start + i)).Succeeds) =
        (failedPlaces reply (start + 1) count).map (· + 1) := by
    rw [List.filter_map, failedPlaces]
    refine congrArg _ (List.filter_congr fun i _ => ?_)
    rw [Function.comp_apply, Nat.add_assoc, Nat.add_comm 1 i]
  rw [failedPlaces, List.range_succ_eq_map, List.filter_cons, hrest]
  by_cases h : (reply start).Succeeds <;> simp [h]

/-- The files that have failed are those at the places of the failed collections. -/
theorem map_some_failedFiles (reply : Nat → Response) (start : Nat) (files : List Path) :
    (failedFiles reply start files).map some =
      (failedPlaces reply start files.length).map (files[·]?) := by
  induction files generalizing start with
  | nil => rfl
  | cons file files ih =>
    have hrest : ((failedPlaces reply (start + 1) files.length).map (· + 1)).map
        ((file :: files)[·]?) = (failedFiles reply (start + 1) files).map some := by
      rw [ih, List.map_map]
      rfl
    rw [failedFiles_cons, List.length_cons, failedPlaces_succ]
    split
    · exact hrest.symm
    · rw [List.map_cons, List.map_cons, hrest]
      rfl

theorem length_failedFiles (reply : Nat → Response) (start : Nat) (files : List Path) :
    (failedFiles reply start files).length = (failedPlaces reply start files.length).length := by
  simpa using congrArg List.length (map_some_failedFiles reply start files)

/-- Every collection fails or succeeds. -/
theorem length_succeededPlaces_add (reply : Nat → Response) (start count : Nat) :
    (succeededPlaces reply start count).length + (failedPlaces reply start count).length =
      count := by
  have hsplit := (List.range count).length_eq_length_filter_add
    fun i => decide (reply (start + i)).Succeeds
  simpa [succeededPlaces, failedPlaces] using hsplit.symm

/-! ## The account -/

section
variable (responses : List Response) (played : Played (Except Failure Summary))

/-- The collection at the place was made, and failed in some way. -/
def Fails (i : Nat) : Prop :=
  ∃ call error, played.calls[3 + i]? = some call ∧
    (responseAt responses (3 + i)).answer call.command = .error error

/-- The collection at the place was made, and was successful. -/
def Works (i : Nat) : Prop :=
  ∃ call text, played.calls[3 + i]? = some call ∧
    (responseAt responses (3 + i)).answer call.command = .ok text

/-- What a run with these files has done, with the given program for the collections. -/
structure Accounts (kcov : String) (files : List Path) : Prop where
  /-- The first three calls are questions. -/
  questions : ∀ call ∈ played.calls.take 3, call.purpose = .capture
  /-- Behind them there are as many collections as files. -/
  count : played.calls.length = 3 + files.length
  /-- Each collection is that of the file at its place. -/
  collections : ∀ i file, files[i]? = some file → ∃ call, played.calls[3 + i]? = some call ∧
    call.purpose = .run ∧ call.command.program = kcov ∧
    call.command.arguments.getLast? = some file
  /-- If no collection fails, all files are in the summary. -/
  complete : (∀ i, ¬ Fails responses played i) →
    ∃ directory, played.result = .ok ⟨directory, files⟩
  /-- Otherwise those that failed are reported, at least one and at most all, and the others
      were successful. -/
  failed : (∃ i, Fails responses played i) → ∃ failed failedAt workedAt,
    played.result = .error (.coverage failed files.length) ∧
    PlacesOf (Fails responses played) failedAt ∧ failed.map some = failedAt.map (files[·]?) ∧
    1 ≤ failed.length ∧ failed.length ≤ files.length ∧
    PlacesOf (Works responses played) workedAt ∧
    workedAt.length = files.length - failed.length

end

section
variable {responses : List Response} {questions : List Call} {command : Path → Command}
  {files : List Path} {result : Except Failure Summary} {unused : List Response}

/-- The collection of the file at a place. -/
theorem getElem?_collectionCalls (hquestions : questions.length = 3) (i : Nat) :
    (questions ++ collectionCalls command files)[3 + i]? =
      files[i]?.map fun file => ⟨.run, command file⟩ := by
  rw [List.getElem?_append_right (by omega), hquestions, Nat.add_sub_cancel_left,
    collectionCalls, List.getElem?_map]

theorem fails_iff (hquestions : questions.length = 3) (i : Nat) :
    Fails responses ⟨result, questions ++ collectionCalls command files, unused⟩ i ↔
      i < files.length ∧ ¬ (responseAt responses (3 + i)).Succeeds := by
  simp only [Fails, getElem?_collectionCalls hquestions, Option.map_eq_some_iff]
  constructor
  · rintro ⟨_, error, ⟨file, hfile, rfl⟩, herror⟩
    exact ⟨(List.getElem?_eq_some_iff.mp hfile).1,
      (Response.not_succeeds_iff _).mpr ⟨error, herror⟩⟩
  · rintro ⟨hi, hfails⟩
    obtain ⟨error, herror⟩ := (Response.not_succeeds_iff (command files[i])).mp hfails
    exact ⟨_, error, ⟨files[i], List.getElem?_eq_getElem hi, rfl⟩, herror⟩

theorem works_iff (hquestions : questions.length = 3) (i : Nat) :
    Works responses ⟨result, questions ++ collectionCalls command files, unused⟩ i ↔
      i < files.length ∧ (responseAt responses (3 + i)).Succeeds := by
  simp only [Works, getElem?_collectionCalls hquestions, Option.map_eq_some_iff]
  constructor
  · rintro ⟨_, text, ⟨file, hfile, rfl⟩, htext⟩
    refine ⟨(List.getElem?_eq_some_iff.mp hfile).1, ?_⟩
    by_contra hfails
    obtain ⟨error, herror⟩ := (Response.not_succeeds_iff (command file)).mp hfails
    cases htext.symm.trans herror
  · rintro ⟨hi, text, htext⟩
    refine ⟨_, text, ⟨files[i], List.getElem?_eq_getElem hi, rfl⟩, ?_⟩
    rw [htext]
    rfl

/-- The account of a run that makes every collection and concludes from those that failed. -/
theorem accounts_of_collections {kcov : String} {directory : Path}
    (hquestions : questions.length = 3)
    (hcaptures : ∀ call ∈ questions, call.purpose = .capture)
    (hprogram : ∀ file, (command file).program = kcov)
    (hlast : ∀ file, (command file).arguments.getLast? = some file)
    (hresult : result =
      conclude directory files (.ok (failedFiles (responseAt responses) 3 files))) :
    Accounts responses ⟨result, questions ++ collectionCalls command files, unused⟩ kcov
      files where
  questions := by
    rw [List.take_left' hquestions]
    exact hcaptures
  count := by simp [collectionCalls, hquestions]
  collections i file hfile := by
    refine ⟨⟨.run, command file⟩, ?_, rfl, hprogram file, hlast file⟩
    rw [getElem?_collectionCalls hquestions, hfile, Option.map_some]
  complete hnone := by
    have hall : AllSucceed (responseAt responses) 3 files.length := by
      intro i hi
      by_contra hfails
      exact hnone i ((fails_iff hquestions i).mpr ⟨hi, hfails⟩)
    rw [(failedFiles_eq_nil_iff ..).mpr hall] at hresult
    exact ⟨directory, hresult⟩
  failed hsome := by
    obtain ⟨i, hi⟩ := hsome
    obtain ⟨hlength, hfails⟩ := (fails_iff hquestions i).mp hi
    have hnonempty : failedFiles (responseAt responses) 3 files ≠ [] := fun hnil =>
      hfails ((failedFiles_eq_nil_iff ..).mp hnil i hlength)
    have hsplit := length_succeededPlaces_add (responseAt responses) 3 files.length
    have hcount := length_failedFiles (responseAt responses) 3 files
    refine ⟨failedFiles (responseAt responses) 3 files,
      failedPlaces (responseAt responses) 3 files.length,
      succeededPlaces (responseAt responses) 3 files.length, ?_, ?_,
      map_some_failedFiles (responseAt responses) 3 files, List.length_pos_of_ne_nil hnonempty,
      by omega, ?_, by omega⟩
    · rw [hresult, conclude, if_neg (by simpa using hnonempty)]
    · exact (placesOf_range_filter ..).congr fun i => (fails_iff hquestions i).symm
    · exact (placesOf_range_filter ..).congr fun i => (works_iff hquestions i).symm

end

/-- A run that keeps going and comes to its collections makes one for each file, and reports
    the files at just those places where the collection failed. -/
theorem accounts_of_keepGoing {settings : Settings}
    (hgoes : settings.coverage.keepGoing = true) (prior : Option Bytes)
    (arguments : List Bytes) {responses : List Response} {sysroot target : Path}
    {files : List Path} (hsysroot : Sysroot (responseAt responses 0) sysroot)
    (htarget : Target (responseAt responses 1) target)
    (hfiles : Built (responseAt responses 2) files) :
    Accounts responses ((run settings prior arguments).play responses) settings.tools.kcov
      files := by
  rw [play_run_of_files hsysroot htarget hfiles, hgoes]
  dsimp only
  rw [play_collection_keepGoing]
  have hthree : [Call.mk .capture (sysrootCommand settings),
      ⟨.capture, workspaceCommand settings⟩,
      ⟨.capture, buildCommand settings prior arguments sysroot⟩].length = 3 := rfl
  exact accounts_of_collections hthree (by simp) (fun _ => rfl) (fun _ => rfl) rfl

/-- Of a file that is listed twice, only the second collection fails, and another one cannot
    be started. -/
theorem accounts_of_keepGoing_listed_twice :
    let settings : Settings := { coverage := { keepGoing := true } }
    let responses : List Response := [.output "/sysroot\n".toList,
      .output "\x7b\"target_directory\":\"/target\"\x7d".toList,
      .output ("\x7b\"profile\":\x7b\"test\":true\x7d," ++
        "\"filenames\":[\"a\",\"b\",\"a\"]\x7d\n").toList,
      .output [], .notStarted .notFound, .status (some 2)]
    let files := ["a", "b", "a"].map Utf8.ofString
    Accounts responses ((run settings none []).play responses) "kcov" files ∧
      ((run settings none []).play responses).result =
        .error (.coverage (["b", "a"].map Utf8.ofString) 3) := by
  intro settings responses files
  have hsysroot : Sysroot (responseAt responses 0) (Utf8.ofString "/sysroot") :=
    (sysroot_iff "rustc").mp (by decide +kernel)
  have htarget : Target (responseAt responses 1) (Utf8.ofString "/target") :=
    ⟨_, rfl, by decide +kernel, by decide⟩
  have hfiles : Built (responseAt responses 2) files :=
    (files_iff ⟨"cargo", [], {}⟩).mp (by decide +kernel)
  exact ⟨accounts_of_keepGoing rfl none [] hsysroot htarget hfiles, by decide +kernel⟩

end TestCoverage.CoverageRun
