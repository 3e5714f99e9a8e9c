/-
  TestCoverage.Proofs.Settings.Malformed

  Files that are no documents.  One that can be read as text, but not as TOML, is refused
  whatever the other layers say.  One that cannot be read as text is passed over: a process
  that reads no other file has the settings that are built in.
-/
import TestCoverage.Proofs.Settings.Refusal

namespace TestCoverage.Settings

/-- The contents are no document: they are not text, or the text is not in TOML. -/
def Malformed (contents : Bytes) : Prop :=
  ∀ text, Utf8.decode? contents = some text → Toml.parse? text = none

/-- Settings of the process are read from the path, be it the project's file or the
    user's. -/
def IsSource (surroundings : Surroundings) (project : Option Path) (path : Path) : Prop :=
  project.map projectFile = some path ∨ userFile? surroundings = some path

/-! ## Text that is not in TOML -/

/-- Where each of the two files gives a layer, so does the one at the path. -/
theorem IsSource.exists_layer {surroundings : Surroundings} {project : Option Path} {path : Path}
    (hsource : IsSource surroundings project path) {ofProject ofUser : Layer}
    (hproject : fileLayer surroundings (project.map projectFile) = .ok ofProject)
    (huser : fileLayer surroundings (userFile? surroundings) = .ok ofUser) :
    ∃ layer, Layer.ofFile surroundings path = .ok layer := by
  rcases hsource with hpath | hpath
  · rw [hpath] at hproject
    exact ⟨ofProject, hproject⟩
  · rw [hpath] at huser
    exact ⟨ofUser, huser⟩

/-- A file that is text gives a layer only if the text is in TOML. -/
theorem exists_value_of_ofFile {surroundings : Surroundings} {path : Path} {contents : Bytes}
    {text : List Char} {layer : Layer} (hlook : surroundings.look path = .file contents)
    (htext : Utf8.decode? contents = some text)
    (hlayer : Layer.ofFile surroundings path = .ok layer) :
    ∃ value, Toml.parse? text = some value := by
  cases hparse : Toml.parse? text with
  | some value => exact ⟨value, rfl⟩
  | none =>
    simp only [Layer.ofFile, hlook, Layer.ofSight, htext, Layer.ofDocument, Format.read,
      hparse] at hlayer
    cases hlayer

/-! ## What is not text -/

/-- The same process where files with these contents are gone. -/
def without (contents : Bytes) (surroundings : Surroundings) : Surroundings :=
  { surroundings with
    look := fun path =>
      if surroundings.look path = .file contents then .nothing else surroundings.look path }

/-- A file that is not text says as much as one that is not there.  Where there is something
    other than a file, files of other names are looked for, and these may be gone. -/
theorem ofFile_without {contents : Bytes} (htext : Utf8.decode? contents = none)
    {surroundings : Surroundings} {path : Path} (hother : surroundings.look path ≠ .other) :
    Layer.ofFile (without contents surroundings) path = Layer.ofFile surroundings path := by
  by_cases hlook : surroundings.look path = .file contents
  · have hnothing : (without contents surroundings).look path = .nothing := if_pos hlook
    simp only [Layer.ofFile, hlook, hnothing, Layer.ofSight, htext]
  · have hsame : (without contents surroundings).look path = surroundings.look path :=
      if_neg hlook
    simp only [Layer.ofFile, hsame]
    cases hsight : surroundings.look path with
    | nothing => rfl
    | file => rfl
    | other => exact absurd hsight hother

theorem load_without {contents : Bytes} (htext : Utf8.decode? contents = none)
    {surroundings : Surroundings} {project : Option Path}
    (hother : ∀ path, IsSource surroundings project path → surroundings.look path ≠ .other) :
    load (without contents surroundings) project = load surroundings project := by
  have hlayer (path : Option Path)
      (hpath : ∀ source, path = some source → IsSource surroundings project source) :
      fileLayer (without contents surroundings) path = fileLayer surroundings path := by
    cases path with
    | none => rfl
    | some source => exact ofFile_without htext (hother source (hpath source rfl))
  have hproject := hlayer (project.map projectFile) fun _ => .inl
  have huser := hlayer (userFile? surroundings) fun _ => .inr
  have huserFile : userFile? (without contents surroundings) = userFile? surroundings := rfl
  simp only [load, layers, hproject, huserFile, huser]
  rfl

/-! ## Both -/

/-- Of two kinds of file that is no document, text that is not in TOML makes every process
    that reads settings from it refuse, whatever the other file and the variables say, and
    report a file.  What is not text is passed over, as if there were no file. -/
theorem load_of_malformed {contents : Bytes} (hmalformed : Malformed contents) :
    ((Utf8.decode? contents).isSome → ∀ surroundings project path,
      IsSource surroundings project path → surroundings.look path = .file contents →
      ∃ error, load surroundings project = .error error ∧ ∀ bytes, error ≠ .notText bytes) ∧
    ((Utf8.decode? contents).isNone → ∀ surroundings project,
      (∀ path, IsSource surroundings project path → surroundings.look path ≠ .other) →
      load surroundings project = load (without contents surroundings) project) := by
  constructor
  · intro hsome surroundings project path hsource hlook
    obtain ⟨text, htext⟩ := Option.isSome_iff_exists.mp hsome
    have hrefused : ¬ ∃ layer, Layer.ofFile surroundings path = .ok layer := by
      rintro ⟨layer, hlayer⟩
      obtain ⟨value, hvalue⟩ := exists_value_of_ofFile hlook htext hlayer
      rw [hmalformed text htext] at hvalue
      cases hvalue
    cases hload : load surroundings project with
    | error error =>
      refine ⟨error, rfl, ?_⟩
      rintro bytes rfl
      -- the variables would have been read, and so both files before them
      obtain ⟨⟨_, hproject⟩, ⟨_, huser⟩, -⟩ := exists_load_eq_notText_iff.mp ⟨bytes, hload⟩
      exact absurd (hsource.exists_layer hproject huser) hrefused
    | ok settings =>
      obtain ⟨_, _, hitems, -⟩ := load_eq_ok_iff.mp hload
      simp only [fileItems, Except.bind_eq_ok_iff] at hitems
      obtain ⟨_, hproject, _, huser, -⟩ := hitems
      exact absurd (hsource.exists_layer hproject huser) hrefused
  · intro hnone surroundings project hother
    exact (load_without (Option.isNone_iff_eq_none.mp hnone) hother).symm

/-- A bracket that is not closed is refused, also where a variable sets all that the file
    could set. -/
theorem load_of_malformed_unclosed :
    Malformed (Utf8.ofString "[coverage\n") ∧
    ∃ error,
      load (alone (Utf8.ofString "[coverage\n")
          [("KCOV_RUNNER__COVERAGE__OUTPUT_SUBDIR", Utf8.ofString "cov")])
        (some (Utf8.ofString "/work")) = .error error ∧ ∀ bytes, error ≠ .notText bytes := by
  have hmalformed : Malformed (Utf8.ofString "[coverage\n") := by
    intro text htext
    rw [Utf8.decode?_ofString, Option.some.injEq] at htext
    subst htext
    decide +kernel
  have hsome : (Utf8.decode? (Utf8.ofString "[coverage\n")).isSome := by
    rw [Utf8.decode?_ofString, Option.isSome_some]
  exact ⟨hmalformed, (load_of_malformed hmalformed).1 hsome _ _ _ (.inl rfl) (look_alone _ _)⟩

/-- A file that gives a setting a name in Latin-1. -/
def latin1 : Bytes :=
  Utf8.ofString "[coverage]\noutput_subdir = \"caf" ++ 0xE9 :: Utf8.ofString "\"\n"

/-- Not every file that is no document is refused. -/
theorem not_forall_malformed_refused :
    ¬ ∀ (contents : Bytes) (surroundings : Surroundings) (project : Option Path) (path : Path),
      Malformed contents → IsSource surroundings project path →
      surroundings.look path = .file contents →
      ∃ error, load surroundings project = .error error := by
  intro hrefused
  have hmalformed : Malformed latin1 := by
    intro text htext
    have hnone : Utf8.decode? latin1 = none := by decide +kernel
    rw [hnone] at htext
    cases htext
  have hload : load (alone latin1 []) (some (Utf8.ofString "/work")) = .ok {} := by
    refine load_eq_ok_iff.mpr ⟨_, _, rfl, rfl, ?_⟩
    decide +kernel
  obtain ⟨error, herror⟩ :=
    hrefused latin1 (alone latin1 []) (some (Utf8.ofString "/work")) _ hmalformed (.inl rfl)
      (look_alone _ _)
  rw [hload] at herror
  cases herror

end TestCoverage.Settings
