/-
  TestCoverage.Proofs.CoverageRun.Output

  Where the coverage output goes.  Every collection of a run is given one directory, which is
  joined from the target directory and the settings.  It lies in the target directory, except
  that settings with an absolute directory are free to name any other.
-/
import TestCoverage.Proofs.CoverageRun.Course
import TestCoverage.Proofs.Path

namespace TestCoverage.CoverageRun

open Workspace (Describes)

/-! ## The target directory -/

/-- A target directory comes from a document that describes it. -/
theorem Target.exists_describes {response : Response} {target : Path}
    (h : Target response target) :
    ∃ document text, response = .output document ∧ Describes document (some text) ∧
      text ≠ [] ∧ target = Utf8.encode text := by
  obtain ⟨document, rfl, hparse, hne⟩ := h
  obtain ⟨named, hdescribes⟩ := Workspace.exists_describes_of_parse hparse
  have hnamed : some target = named.map Utf8.encode := by
    have hsame := hparse.symm.trans (Workspace.describes_iff.mp hdescribes)
    simpa using hsame
  obtain ⟨text, rfl, htext⟩ := Option.map_eq_some_iff.mp hnamed.symm
  refine ⟨document, text, rfl, hdescribes, ?_, htext.symm⟩
  rintro rfl
  exact hne htext.symm

/-- A document that describes a target directory gives one for the output. -/
theorem exists_coverageDirectory {document text : List Char}
    (hdescribes : Describes document (some text)) (htext : text ≠ []) (sub : String) :
    ∃ workspace, Workspace.parse document = .ok workspace ∧
      workspace.coverageDirectory sub =
        .ok (Path.join (Utf8.encode text) (Utf8.ofString sub)) := by
  refine ⟨_, Workspace.describes_iff.mp hdescribes, ?_⟩
  obtain ⟨c, rest, rfl⟩ := List.exists_cons_of_ne_nil htext
  rw [Workspace.coverageDirectory_encode]

/-! ## The collections -/

/-- All the collections of a run are given the directory that is joined from the target
    directory and the settings. -/
theorem exists_target_of_run {settings : Settings} {prior : Option Bytes}
    {arguments : List Bytes} {responses : List Response} {call : Call}
    (hcall : call ∈ ((run settings prior arguments).play responses).calls)
    (hrun : call.purpose = .run) :
    ∃ target, Target (responseAt responses 1) target ∧
      call.command.arguments[1]? =
        some (target.join (Utf8.ofString settings.coverage.outputSubdir)) := by
  -- The calls before the collection all ask for something.
  have hcapture {command : Command} : call ≠ ⟨.capture, command⟩ := by
    rintro rfl
    cases hrun
  cases course settings prior arguments responses with
  | noSysroot h => simp [play_run_of_no_sysroot h, hcapture] at hcall
  | noDirectory hsysroot h => simp [play_run_of_no_directory hsysroot h, hcapture] at hcall
  | noFiles hsysroot htarget h =>
    simp [play_run_of_no_files hsysroot htarget h, hcapture] at hcall
  | collection hsysroot htarget hfiles =>
    simp only [play_run_of_files hsysroot htarget hfiles, List.mem_cons, hcapture, false_or]
      at hcall
    obtain ⟨i, hi⟩ := List.getElem?_of_mem hcall
    obtain ⟨file, -, rfl, -⟩ := (collection_calls_getElem?_iff _).mp hi
    exact ⟨_, htarget, rfl⟩

/-! ## Where the output lies -/

/-- Whatever workspace is described, the directory for the output lies in the target directory
    exactly if the settings name none that is absolute, or an absolute one that lies there; and
    so does the directory that each collection of a run with these settings is given. -/
theorem output_isWithin_iff (sub : String) :
    (∀ document text, Describes document (some text) → text ≠ [] →
      ∃ workspace, ∃ directory : Path, Workspace.parse document = .ok workspace ∧
        workspace.coverageDirectory sub = .ok directory ∧
        (directory.IsWithin (Utf8.encode text) ↔
          Path.isAbsolute (Utf8.ofString sub) = false ∨
            Path.IsWithin (Utf8.ofString sub) (Utf8.encode text))) ∧
      ∀ settings : Settings, settings.coverage.outputSubdir = sub → ∀ prior arguments responses,
        ∀ call ∈ ((run settings prior arguments).play responses).calls, call.purpose = .run →
          ∃ document text, ∃ directory : Path, responseAt responses 1 = .output document ∧
            Describes document (some text) ∧ text ≠ [] ∧
            call.command.arguments[1]? = some directory ∧
            (directory.IsWithin (Utf8.encode text) ↔
              Path.isAbsolute (Utf8.ofString sub) = false ∨
                Path.IsWithin (Utf8.ofString sub) (Utf8.encode text)) := by
  constructor
  · intro document text hdescribes htext
    obtain ⟨workspace, hparse, hdirectory⟩ := exists_coverageDirectory hdescribes htext sub
    exact ⟨workspace, _, hparse, hdirectory,
      Path.isWithin_join_iff (Utf8.encode_ne_nil htext)⟩
  · rintro settings rfl prior arguments responses call hcall hrun
    obtain ⟨target, htarget, hdirectory⟩ := exists_target_of_run hcall hrun
    obtain ⟨document, text, hdocument, hdescribes, htext, rfl⟩ := htarget.exists_describes
    exact ⟨document, text, _, hdocument, hdescribes, htext, hdirectory,
      Path.isWithin_join_iff (Utf8.encode_ne_nil htext)⟩

/-- A step upwards does not count as leaving, an absolute directory that lies elsewhere does, and
    the collection of a run with the built-in settings stays in the target directory. -/
theorem output_isWithin_iff_repository :
    let document := "\x7b\"target_directory\":\"/repo/target\"\x7d".toList
    let target := Utf8.encode "/repo/target".toList
    let responses : List Response := [.output "/sysroot\n".toList, .output document,
      .output "\x7b\"profile\":\x7b\"test\":true\x7d,\"filenames\":[\"a\"]\x7d".toList, .output []]
    Describes document (some "/repo/target".toList) ∧
    (∃ workspace, ∃ directory : Path, Workspace.parse document = .ok workspace ∧
      workspace.coverageDirectory "../cov" = .ok directory ∧ directory.IsWithin target) ∧
    (∃ workspace, ∃ directory : Path, Workspace.parse document = .ok workspace ∧
      workspace.coverageDirectory "/tmp/cov" = .ok directory ∧ ¬ directory.IsWithin target) ∧
    ∃ call ∈ ((run {} none []).play responses).calls, call.purpose = .run ∧
      ∃ text, ∃ directory : Path, call.command.arguments[1]? = some directory ∧
        directory.IsWithin (Utf8.encode text) := by
  intro document target responses
  have hdescribes : Describes document (some "/repo/target".toList) :=
    Workspace.describes_iff.mpr (by decide +kernel)
  have hnonempty : "/repo/target".toList ≠ [] := by decide
  refine ⟨hdescribes, ?_, ?_, ?_⟩
  · obtain ⟨workspace, directory, hparse, hdirectory, hwithin⟩ :=
      (output_isWithin_iff "../cov").1 document _ hdescribes hnonempty
    exact ⟨workspace, directory, hparse, hdirectory, hwithin.mpr (by decide +kernel)⟩
  · obtain ⟨workspace, directory, hparse, hdirectory, hwithin⟩ :=
      (output_isWithin_iff "/tmp/cov").1 document _ hdescribes hnonempty
    exact ⟨workspace, directory, hparse, hdirectory, hwithin.not.mpr (by decide +kernel)⟩
  · have hcall : ⟨.run, collectCommand {} none (Utf8.ofString "/sysroot")
        (Utf8.ofString "/repo/target/cov") (Utf8.ofString "a")⟩ ∈
          ((run {} none []).play responses).calls := by decide +kernel
    obtain ⟨_, text, directory, -, -, -, hdirectory, hwithin⟩ :=
      (output_isWithin_iff _).2 {} rfl none [] responses _ hcall rfl
    exact ⟨_, hcall, rfl, text, directory, hdirectory, hwithin.mpr (.inl (by decide +kernel))⟩

/-- The output does not always lie in the target directory. -/
theorem not_forall_output_isWithin :
    ¬ ∀ (document text : List Char) (sub : String), Describes document (some text) → text ≠ [] →
      ∃ workspace, ∃ directory : Path, Workspace.parse document = .ok workspace ∧
        workspace.coverageDirectory sub = .ok directory ∧
        directory.IsWithin (Utf8.encode text) := by
  intro h
  have hdescribes : Describes "\x7b\"target_directory\":\"/repo/target\"\x7d".toList
      (some "/repo/target".toList) := Workspace.describes_iff.mpr (by decide +kernel)
  have hnonempty : "/repo/target".toList ≠ [] := by decide
  obtain ⟨workspace, directory, hparse, hdirectory, hwithin⟩ :=
    h _ _ "/tmp/cov" hdescribes hnonempty
  obtain ⟨workspace', hparse', hdirectory'⟩ :=
    exists_coverageDirectory hdescribes hnonempty "/tmp/cov"
  obtain rfl := Except.ok.inj (hparse.symm.trans hparse')
  obtain rfl := Except.ok.inj (hdirectory.symm.trans hdirectory')
  exact absurd hwithin (by decide +kernel)

end TestCoverage.CoverageRun
