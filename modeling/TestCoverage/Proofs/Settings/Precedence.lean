/-
  TestCoverage.Proofs.Settings.Precedence

  Setting by setting, the variables come before the user's file, the user's file before the
  project's, and that before what is built in.  A layer that sets one setting of a section
  leaves the others of the section to the layers below it.
-/
import TestCoverage.Proofs.Environment
import TestCoverage.Proofs.Settings.Document

namespace TestCoverage.Settings

/-! ## Layers that say what is chosen -/

/-- The file at a place, if the place is known, says what is chosen. -/
def PathSays (choice : Choice) (surroundings : Surroundings) : Option Path → Prop
  | some path => FileSays choice (surroundings.look path)
  | none => choice = .nothing

theorem PathSays.layer {choice : Choice} {surroundings : Surroundings} {path : Option Path}
    (h : PathSays choice surroundings path) :
    ∃ layer, fileLayer surroundings path = .ok layer ∧ layer.Says choice := by
  cases path with
  | none =>
    cases h
    exact ⟨[], rfl, nofun, nofun⟩
  | some path =>
    rw [fileLayer, FileSays.ofFile_eq h]
    exact FileSays.layer h surroundings.directory path

/-- What is built in gives every setting its fallback. -/
theorem says_builtInLayer : Layer.Says .fallback builtInLayer :=
  (Choice.documentSays_entries .fallback).layer none

/-- The document of a choice says it. -/
theorem fileSays_document (choice : Choice) :
    FileSays choice (.file (Utf8.encode choice.document)) :=
  .document (Utf8.decode?_encode _) (parse?_document choice) choice.documentSays_entries

/-! ## Choices that are made -/

/-- The variables that spell a choice. -/
def Choice.bindings (choice : Choice) : Variables :=
  (toolSettings ++ coverageSettings).filterMap fun setting =>
    (choice setting).map fun value =>
      (setting.variableName, Utf8.ofString (setting.spelled value))

theorem Choice.mem_bindings_iff {choice : Choice} {binding : String × Bytes} :
    binding ∈ choice.bindings ↔ ∃ (setting : Setting) (value : setting.Value),
      choice setting = some value ∧
      binding = (setting.variableName, Utf8.ofString (setting.spelled value)) := by
  simp only [Choice.bindings, List.mem_filterMap, Option.map_eq_some_iff, Setting.mem_settings,
    true_and]
  constructor
  · rintro ⟨setting, value, hvalue, rfl⟩
    exact ⟨setting, value, hvalue, rfl⟩
  · rintro ⟨setting, value, hvalue, rfl⟩
    exact ⟨setting, value, hvalue, rfl⟩

theorem variablesSay_nothing {bindings : VariableBlock} (htext : IsText bindings)
    (h : Layer.Unset bindings) : VariablesSay .nothing bindings where
  text := htext
  only binding hbinding hkey := absurd (h binding hbinding) hkey
  all := nofun
  plain := nofun

theorem variablesSay_bindings {choice : Choice}
    (hplain : ∀ (setting : TextSetting) (text : String), choice (.text setting) = some text →
      IsPlain text) {others : Variables} (htext : IsText others.block)
    (hothers : Layer.Unset others.block) :
    VariablesSay choice (others ++ choice.bindings).block where
  text := by
    have hown : IsText choice.bindings.block := by
      intro binding hbinding
      obtain ⟨named, hmem, rfl⟩ := List.mem_map.mp hbinding
      obtain ⟨setting, value, -, rfl⟩ := Choice.mem_bindings_iff.mp hmem
      exact ⟨Utf8.wellFormed_iff.mpr ⟨_, rfl⟩, Utf8.wellFormed_iff.mpr ⟨_, rfl⟩⟩
    rw [Variables.block, List.map_append]
    exact List.forall_mem_append.mpr ⟨htext, hown⟩
  only binding hbinding hkey := by
    rw [Variables.named_block] at hbinding
    rw [Layer.Unset, Variables.named_block] at hothers
    rcases List.mem_append.mp hbinding with hmem | hmem
    · exact absurd (hothers binding hmem) hkey
    · exact Choice.mem_bindings_iff.mp hmem
  all setting value hvalue := by
    rw [Variables.named_block]
    exact List.mem_append_right _ (Choice.mem_bindings_iff.mpr ⟨setting, value, hvalue, rfl⟩)
  plain := hplain

/-- There is a process with any given files and variables that give settings well-typed
    values. -/
theorem exists_surroundings (project user process : Choice)
    (hplain : ∀ (setting : TextSetting) (text : String), process (.text setting) = some text →
      IsPlain text) :
    ∃ (surroundings : Surroundings) (root : Path),
      FileSays project (surroundings.look (projectFile root)) ∧
      PathSays user surroundings (userFile? surroundings) ∧
      VariablesSay process surroundings.bindings := by
  have hdirectory : process.bindings.get? "XDG_CONFIG_HOME" = none := by
    apply Entries.get?_of_notMem
    intro hmem
    obtain ⟨binding, hbinding, hname⟩ := List.mem_map.mp hmem
    obtain ⟨setting, value, -, rfl⟩ := Choice.mem_bindings_iff.mp hbinding
    exact setting.variableName_ne_directory hname
  let root : Path := Utf8.ofString "/work"
  let values : Variables := ("HOME", Utf8.ofString "/home") :: process.bindings
  let surroundings : Surroundings := {
    directory := root
    bindings := values.block
    look := fun path =>
      .file (Utf8.encode (if path = projectFile root then project else user).document) }
  have huserFile : userFile? surroundings =
      some (Utf8.ofString "/home/.config/kcov-runner/config.toml") := by
    have hxdg : surroundings.bindings.get? (Utf8.ofString "XDG_CONFIG_HOME") = none :=
      (values.get?_block _).trans hdirectory
    have hhome : surroundings.bindings.get? (Utf8.ofString "HOME") =
        some (Utf8.ofString "/home") := values.get?_block "HOME"
    rw [userFile?_of_home (by decide) hhome hxdg]
    rfl
  refine ⟨surroundings, root, ?_, ?_, ?_⟩
  · simpa [surroundings] using fileSays_document project
  · rw [huserFile]
    have hne : Utf8.ofString "/home/.config/kcov-runner/config.toml" ≠ projectFile root := by
      decide +kernel
    simpa [PathSays, surroundings, hne] using fileSays_document user
  · have hothers : Layer.Unset (Variables.block [("HOME", Utf8.ofString "/home")]) := by
      decide +kernel
    exact variablesSay_bindings hplain (by decide +kernel) hothers

/-! ## All layers -/

/-- Every setting has the value of the upmost layer that gives it one. -/
def Choice.layered (process user project : Choice) : Settings :=
  Setting.assemble fun setting =>
    ((process setting).or ((user setting).or (project setting))).getD setting.fallback

section Layers

variable {builtIn ofProject ofUser ofProcess : Layer} {project user process : Choice}
  (hbuiltIn : builtIn.Says .fallback) (hproject : ofProject.Says project)
  (huser : ofUser.Says user) (hprocess : ofProcess.Says process)
include hbuiltIn hproject huser hprocess

/-- Four layers make one choice. -/
theorem overlaid_stacked :
    Overlaid (process.onto (user.onto (project.onto .fallback))) []
      (stacked [builtIn, ofProject, ofUser, ofProcess]) := by
  have hnothing : Tabular [] := nofun
  have hbuiltIn := hbuiltIn.overlaid hnothing
  have hproject := hbuiltIn.trans (hproject.overlaid hbuiltIn.tabular)
  have huser := hproject.trans (huser.overlaid hproject.tabular)
  exact huser.trans (hprocess.overlaid huser.tabular)

/-- What is built in leaves no setting without a value, so in the end each has one. -/
theorem decode_stacked :
    decode (stacked [builtIn, ofProject, ofUser, ofProcess]) =
      .ok (process.layered user project) := by
  have hall := overlaid_stacked hbuiltIn hproject huser hprocess
  refine decode_of_has hall.tabular fun setting => hall.has setting _ ?_
  simp only [Choice.onto, Choice.fallback]
  cases process setting <;> cases user setting <;> cases project setting <;> rfl

end Layers

section Sources

variable {surroundings : Surroundings} {path : Option Path} {project user process : Choice}
  (hproject : PathSays project surroundings (path.map projectFile))
  (huser : PathSays user surroundings (userFile? surroundings))
  (hvariables : VariablesSay process surroundings.bindings)
include hproject huser hvariables

/-- The layers say what the files and the variables say. -/
theorem exists_layers_of_choices : ∃ ofProject ofUser ofProcess,
    layers surroundings path = .ok [builtInLayer, ofProject, ofUser, ofProcess] ∧
      ofProject.Says project ∧ ofUser.Says user ∧ ofProcess.Says process := by
  obtain ⟨ofProject, hprojectLayer, hproject⟩ := hproject.layer
  obtain ⟨ofUser, huserLayer, huser⟩ := huser.layer
  obtain ⟨values, hvalues⟩ := exists_texts hvariables.text
  rw [← texts_eq_ok_iff.mp hvalues] at hvariables
  exact ⟨ofProject, ofUser, Layer.ofVariables values, layers_eq_ok_iff.mpr
    ⟨ofProject, ofUser, values, hprojectLayer, huserLayer, hvalues, rfl⟩, hproject, huser,
    hvariables.layer⟩

theorem load_eq_ok_of_choices :
    load surroundings path = .ok (process.layered user project) := by
  obtain ⟨ofProject, ofUser, ofProcess, hlayers, hproject, huser, hprocess⟩ :=
    exists_layers_of_choices hproject huser hvariables
  rw [load, hlayers]
  exact decode_stacked says_builtInLayer hproject huser hprocess

end Sources

/-- Files and variables that give settings well-typed values can be loaded, and setting by
    setting the variables count before the user's file, and that before the project's, which
    does not count at all if there is no project. -/
theorem load_follows_precedence {surroundings : Surroundings} {user process : Choice}
    (huser : PathSays user surroundings (userFile? surroundings))
    (hvariables : VariablesSay process surroundings.bindings) :
    (∀ (root : Path) (project : Choice),
      FileSays project (surroundings.look (projectFile root)) →
      ∃ settings, load surroundings (some root) = .ok settings ∧
        ∀ setting : Setting, setting.get settings =
          ((process setting).or ((user setting).or (project setting))).getD
            setting.fallback) ∧
    ∃ settings, load surroundings none = .ok settings ∧
      ∀ setting : Setting, setting.get settings =
        ((process setting).or (user setting)).getD setting.fallback := by
  constructor
  · intro root project hproject
    have hpath : PathSays project surroundings ((some root).map projectFile) := hproject
    exact ⟨_, load_eq_ok_of_choices hpath huser hvariables, Setting.get_assemble _⟩
  · have hpath : PathSays .nothing surroundings (Option.map projectFile none) := rfl
    refine ⟨_, load_eq_ok_of_choices hpath huser hvariables, fun setting => ?_⟩
    rw [Choice.layered, Setting.get_assemble, Choice.nothing, Option.or_none]

/-- The layers mix in both sections, and an empty text is a value. -/
theorem load_follows_precedence_mixed :
    ∃ settings,
      load {
        directory := Utf8.ofString "/work"
        bindings := Variables.block [("HOME", Utf8.ofString "/home"),
          ("KCOV_RUNNER__TOOLS__RUSTC", Utf8.ofString "/env/rustc"),
          ("KCOV_RUNNER__COVERAGE__KEEP_GOING", Utf8.ofString "true")]
        look := fun path => .file (Utf8.ofString
          (if path = projectFile (Utf8.ofString "/work") then
            "[tools]\nrustc = \"a\"\nkcov = \"b\"\n[coverage]\n"
          else "[tools]\nkcov = \"\"\n[coverage]\nkeep_going = false\n")) }
        (some (Utf8.ofString "/work")) = .ok settings ∧
      settings.tools = { cargo := "cargo", rustc := "/env/rustc", kcov := "" } ∧
      settings.coverage.keepGoing = true := by
  let project : Choice
    | .text .rustc => some "a"
    | .text .kcov => some "b"
    | _ => none
  let user : Choice
    | .text .kcov => some ""
    | .keepGoing => some false
    | _ => none
  let process : Choice
    | .text .rustc => some "/env/rustc"
    | .keepGoing => some true
    | _ => none
  let surroundings : Surroundings := {
    directory := Utf8.ofString "/work"
    bindings := Variables.block [("HOME", Utf8.ofString "/home"),
      ("KCOV_RUNNER__TOOLS__RUSTC", Utf8.ofString "/env/rustc"),
      ("KCOV_RUNNER__COVERAGE__KEEP_GOING", Utf8.ofString "true")]
    look := fun path => .file (Utf8.ofString
      (if path = projectFile (Utf8.ofString "/work") then
        "[tools]\nrustc = \"a\"\nkcov = \"b\"\n[coverage]\n"
      else "[tools]\nkcov = \"\"\n[coverage]\nkeep_going = false\n")) }
  have hproject : FileSays project
      (surroundings.look (projectFile (Utf8.ofString "/work"))) := by
    have htext : Utf8.ofString "[tools]\nrustc = \"a\"\nkcov = \"b\"\n[coverage]\n" =
        Utf8.encode project.document := by decide +kernel
    simpa only [surroundings, if_true, htext] using fileSays_document project
  have huser : PathSays user surroundings (userFile? surroundings) := by
    have htext : Utf8.ofString "[tools]\nkcov = \"\"\n[coverage]\nkeep_going = false\n" =
        Utf8.encode user.document := by decide +kernel
    have hpath : userFile? surroundings =
        some (Utf8.ofString "/home/.config/kcov-runner/config.toml") := by decide +kernel
    have hne : Utf8.ofString "/home/.config/kcov-runner/config.toml" ≠
        projectFile (Utf8.ofString "/work") := by decide +kernel
    rw [hpath, PathSays]
    simpa only [surroundings, if_neg hne, htext] using fileSays_document user
  have hprocess : VariablesSay process surroundings.bindings := by
    have hplain : ∀ (setting : TextSetting) (text : String),
        process (.text setting) = some text → IsPlain text := by
      rintro (_ | _ | _ | _ | _ | _) text htext
      all_goals cases htext
      exact ⟨by decide +kernel, by decide +kernel, by decide +kernel, by decide +kernel⟩
    have hothers : Layer.Unset (Variables.block [("HOME", Utf8.ofString "/home")]) := by
      decide +kernel
    exact variablesSay_bindings hplain (by decide +kernel) hothers
  obtain ⟨settings, hload, hget⟩ := (load_follows_precedence huser hprocess).1 _ project hproject
  refine ⟨settings, hload, ?_, hget .keepGoing⟩
  have hcargo := hget (.text .cargo)
  have hrustc := hget (.text .rustc)
  have hkcov := hget (.text .kcov)
  obtain ⟨⟨cargo, rustc, kcov⟩, coverage⟩ := settings
  cases hcargo
  cases hrustc
  cases hkcov
  rfl

end TestCoverage.Settings
