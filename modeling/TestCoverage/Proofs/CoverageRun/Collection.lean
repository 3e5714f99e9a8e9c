/-
  TestCoverage.Proofs.CoverageRun.Collection

  Collecting the coverage of each file in turn.  The calls and the result depend on the
  responses only through their successes, so each of the two policies has a closed form:
  a run that keeps going makes every call and lists the files whose call failed, and a run
  that does not ends with the first call that fails.
-/
import TestCoverage.CoverageRun
import TestCoverage.Proofs.Except
import TestCoverage.Proofs.Play

namespace TestCoverage.CoverageRun

/-- The `count` responses from `start` on are successes. -/
def AllSucceed (reply : Nat → Response) (start count : Nat) : Prop :=
  ∀ i < count, (reply (start + i)).Succeeds

theorem allSucceed_zero (reply : Nat → Response) (start : Nat) : AllSucceed reply start 0 :=
  fun _ hi => absurd hi (Nat.not_lt_zero _)

theorem allSucceed_succ_iff (reply : Nat → Response) (start count : Nat) :
    AllSucceed reply start (count + 1) ↔
      (reply start).Succeeds ∧ AllSucceed reply (start + 1) count := by
  rw [AllSucceed, Nat.forall_lt_succ_left]
  refine and_congr_right fun _ => forall₂_congr fun i _ => ?_
  rw [Nat.add_right_comm, Nat.add_assoc]

theorem AllSucceed.mono {reply : Nat → Response} {start m n : Nat} (hmn : m ≤ n)
    (h : AllSucceed reply start n) : AllSucceed reply start m :=
  fun i hi => h i (Nat.lt_of_lt_of_le hi hmn)

/-- Counting the files from the second on starts one place later. -/
theorem start_add_length_cons (start : Nat) (file : Path) (files : List Path) :
    start + (file :: files).length = start + 1 + files.length :=
  (Nat.succ_add_eq_add_succ start files.length).symm

/-- A place in a list splits it. -/
theorem exists_append_of_getElem? {files : List Path} {i : Nat} {file : Path}
    (h : files[i]? = some file) :
    ∃ before after, files = before ++ file :: after ∧ before.length = i := by
  obtain ⟨hi, rfl⟩ := List.getElem?_eq_some_iff.mp h
  refine ⟨files.take i, files.drop (i + 1), ?_, List.length_take_of_le (Nat.le_of_lt hi)⟩
  rw [List.getElem_cons_drop, List.take_append_drop]

/-- Either every file is collected, or there is a first one of which the call fails. -/
theorem allSucceed_or_first_fails (reply : Nat → Response) (start : Nat) (files : List Path) :
    AllSucceed reply start files.length ∨
      ∃ before file after, files = before ++ file :: after ∧
        AllSucceed reply start before.length ∧ ¬ (reply (start + before.length)).Succeeds := by
  induction files generalizing start with
  | nil => exact .inl (allSucceed_zero reply start)
  | cons file files ih =>
    by_cases hfirst : (reply start).Succeeds
    · rcases ih (start + 1) with hall | ⟨before, failing, after, rfl, hbefore, hfails⟩
      · exact .inl ((allSucceed_succ_iff ..).mpr ⟨hfirst, hall⟩)
      · refine .inr ⟨file :: before, failing, after, rfl, ?_, ?_⟩
        · exact (allSucceed_succ_iff ..).mpr ⟨hfirst, hbefore⟩
        · rwa [start_add_length_cons]
    · exact .inr ⟨[], file, files, rfl, allSucceed_zero reply start, hfirst⟩

/-- The files of which the calls fail, in order; the first file has the response at
    `start`. -/
def failedFiles (reply : Nat → Response) (start : Nat) (files : List Path) : List Path :=
  ((files.zipIdx start).filter fun item => ¬ (reply item.2).Succeeds).map Prod.fst

theorem failedFiles_cons (reply : Nat → Response) (start : Nat) (file : Path)
    (files : List Path) :
    failedFiles reply start (file :: files) =
      if (reply start).Succeeds then failedFiles reply (start + 1) files
      else file :: failedFiles reply (start + 1) files := by
  by_cases h : (reply start).Succeeds <;> simp [failedFiles, h]

/-- No file has failed exactly if every call was successful. -/
theorem failedFiles_eq_nil_iff (reply : Nat → Response) (start : Nat) (files : List Path) :
    failedFiles reply start files = [] ↔ AllSucceed reply start files.length := by
  induction files generalizing start with
  | nil => exact iff_of_true rfl (allSucceed_zero reply start)
  | cons file files ih =>
    rw [failedFiles_cons, List.length_cons, allSucceed_succ_iff, ← ih]
    by_cases h : (reply start).Succeeds <;> simp [h]

/-- The first file that fails is the first of those that have failed. -/
theorem failedFiles_of_first_fails {reply : Nat → Response} {start : Nat}
    {before after : List Path} {file : Path} (hbefore : AllSucceed reply start before.length)
    (hfails : ¬ (reply (start + before.length)).Succeeds) :
    failedFiles reply start (before ++ file :: after) =
      file :: failedFiles reply (start + before.length + 1) after := by
  induction before generalizing start with
  | nil => exact (failedFiles_cons ..).trans (if_neg hfails)
  | cons first before ih =>
    obtain ⟨hfirst, hrest⟩ := (allSucceed_succ_iff ..).mp hbefore
    rw [start_add_length_cons] at hfails ⊢
    rw [List.cons_append, failedFiles_cons, if_pos hfirst, ih hrest hfails]

section
variable (command : Path → Command)

/-- Collecting by a command for each file. -/
abbrev collection (keepGoing : Bool) (files : List Path) : Routine (List Path) :=
  collectAll (fun file => Routine.execute (command file)) keepGoing files

/-- The calls for the files, in order. -/
def collectionCalls (files : List Path) : List Call :=
  files.map fun file => ⟨.run, command file⟩

/-! ## One file -/

theorem play_collection_cons_of_succeeds {keepGoing : Bool} {file : Path} {files : List Path}
    {responses : List Response} {start : Nat} (h : (responseAt responses start).Succeeds) :
    (collection command keepGoing (file :: files)).play (responses.drop start) =
      let rest := (collection command keepGoing files).play (responses.drop (start + 1))
      ⟨rest.result, ⟨.run, command file⟩ :: rest.calls, rest.unused⟩ := by
  obtain ⟨text, htext⟩ := h
  rw [collection, collectAll, Routine.play_bind, Routine.play_attempt, Routine.play_execute,
    responseAt_drop, Nat.add_zero, htext, List.drop_drop]
  rfl

theorem play_collection_cons_of_fails {keepGoing : Bool} {file : Path} {files : List Path}
    {responses : List Response} {start : Nat} {error : ToolError}
    (h : (responseAt responses start).answer (command file) = .error error) :
    (collection command keepGoing (file :: files)).play (responses.drop start) =
      if keepGoing then
        let rest := (collection command keepGoing files).play (responses.drop (start + 1))
        ⟨rest.result.map (file :: ·), ⟨.run, command file⟩ :: rest.calls, rest.unused⟩
      else ⟨.error (.tool error), [⟨.run, command file⟩], responses.drop (start + 1)⟩ := by
  rw [collection, collectAll, Routine.play_bind, Routine.play_attempt, Routine.play_execute,
    responseAt_drop, Nat.add_zero, h, List.drop_drop]
  cases keepGoing with
  | false => rfl
  | true =>
    simp only [Except.map, Except.mapError_error, Routine.continued_ok, if_true, Routine.play_bind,
      List.singleton_append]
    generalize (collection command true files).play (responses.drop (start + 1)) = rest
    obtain ⟨result, calls, unused⟩ := rest
    cases result <;> simp [Routine.continued]

/-! ## All files -/

/-- A run that keeps going makes a call for every file. -/
theorem play_collection_keepGoing (files : List Path) (responses : List Response)
    (start : Nat) :
    (collection command true files).play (responses.drop start) =
      ⟨.ok (failedFiles (responseAt responses) start files), collectionCalls command files,
        responses.drop (start + files.length)⟩ := by
  induction files generalizing start with
  | nil => rfl
  | cons file files ih =>
    rw [failedFiles_cons]
    by_cases hsucceeds : (responseAt responses start).Succeeds
    · rw [play_collection_cons_of_succeeds command hsucceeds, ih, if_pos hsucceeds,
        ← start_add_length_cons start file]
      rfl
    · obtain ⟨error, herror⟩ := (Response.not_succeeds_iff (command file)).mp hsucceeds
      rw [play_collection_cons_of_fails command herror, ih, if_neg hsucceeds,
        ← start_add_length_cons start file]
      rfl

/-- While every call is successful, either policy makes a call for every file. -/
theorem play_collection_of_allSucceed {keepGoing : Bool} {files : List Path}
    {responses : List Response} {start : Nat}
    (h : AllSucceed (responseAt responses) start files.length) :
    (collection command keepGoing files).play (responses.drop start) =
      ⟨.ok [], collectionCalls command files, responses.drop (start + files.length)⟩ := by
  induction files generalizing start with
  | nil => rfl
  | cons file files ih =>
    obtain ⟨hfirst, hrest⟩ := (allSucceed_succ_iff ..).mp h
    rw [play_collection_cons_of_succeeds command hfirst, ih hrest,
      ← start_add_length_cons start file]
    rfl

/-- The first call that fails ends a run that does not keep going. -/
theorem play_collection_of_first_fails {before after : List Path} {file : Path}
    {responses : List Response} {start : Nat} {error : ToolError}
    (hbefore : AllSucceed (responseAt responses) start before.length)
    (hfails : (responseAt responses (start + before.length)).answer (command file) =
      .error error) :
    (collection command false (before ++ file :: after)).play (responses.drop start) =
      ⟨.error (.tool error), collectionCalls command (before ++ [file]),
        responses.drop (start + before.length + 1)⟩ := by
  induction before generalizing start with
  | nil => exact play_collection_cons_of_fails command hfails
  | cons first before ih =>
    obtain ⟨hfirst, hrest⟩ := (allSucceed_succ_iff ..).mp hbefore
    rw [start_add_length_cons] at hfails ⊢
    rw [List.cons_append, play_collection_cons_of_succeeds command hfirst, ih hrest hfails]
    rfl

/-- There is a call for each file, as far as the policy goes. -/
theorem collection_calls_getElem?_iff {keepGoing : Bool} {files : List Path}
    {responses : List Response} {start i : Nat} {call : Call} :
    ((collection command keepGoing files).play (responses.drop start)).calls[i]? = some call ↔
      ∃ file, files[i]? = some file ∧ call = ⟨.run, command file⟩ ∧
        (keepGoing = true ∨ AllSucceed (responseAt responses) start i) := by
  cases keepGoing with
  | true =>
    rw [play_collection_keepGoing, collectionCalls, List.getElem?_map, Option.map_eq_some_iff]
    simp [eq_comm]
  | false =>
    simp only [Bool.false_eq_true, false_or]
    rcases allSucceed_or_first_fails (responseAt responses) start files with
      hall | ⟨before, failing, after, rfl, hbefore, hfails⟩
    · rw [play_collection_of_allSucceed command hall, collectionCalls, List.getElem?_map,
        Option.map_eq_some_iff]
      refine exists_congr fun file => and_congr_right fun hfile => ?_
      have hi : i < files.length := (List.getElem?_eq_some_iff.mp hfile).1
      simp [hall.mono (Nat.le_of_lt hi), eq_comm]
    · obtain ⟨error, herror⟩ := (Response.not_succeeds_iff (command failing)).mp hfails
      rw [play_collection_of_first_fails command hbefore herror, collectionCalls,
        List.getElem?_map, Option.map_eq_some_iff]
      refine exists_congr fun file => ?_
      by_cases hi : i ≤ before.length
      · have hsame : (before ++ [failing])[i]? = (before ++ failing :: after)[i]? := by
          rw [List.getElem?_append, List.getElem?_append]
          split
          · rfl
          · rw [show i - before.length = 0 by omega]
            rfl
        simp [hsame, hbefore.mono hi, eq_comm]
      · -- The collection has stopped before this place, at the call that fails.
        have hnone : (before ++ [failing])[i]? = none := by
          rw [List.getElem?_eq_none_iff, List.length_append, List.length_singleton]
          omega
        have hstopped : ¬ AllSucceed (responseAt responses) start i :=
          fun h => hfails (h before.length (by omega))
        simp [hnone, hstopped]

end
end TestCoverage.CoverageRun
