/-
  TestCoverage.Proofs.Settings.Defaults

  Where settings that nobody sets have their values from.  What is built in as a document and
  what the types of the settings have as defaults are the same, so a choice of values comes to
  the same settings as a file among the layers and as JSON.
-/
import TestCoverage.Proofs.Settings.Json
import TestCoverage.Proofs.Settings.Precedence

namespace TestCoverage.Settings

/-- One file makes the choice, the project's or the user's.  The other file, if there is one,
    says nothing, and neither does any variable; all variables are text. -/
inductive OneFileSays (choice : Choice) (surroundings : Surroundings) : Option Path → Prop where
  | project {root : Path} (hfile : FileSays choice (surroundings.look (projectFile root)))
      (huser : PathSays .nothing surroundings (userFile? surroundings))
      (htext : IsText surroundings.bindings)
      (hvariables : Layer.Unset surroundings.bindings) :
      OneFileSays choice surroundings (some root)
  | user {project : Option Path} {path : Path} (hpath : userFile? surroundings = some path)
      (hfile : FileSays choice (surroundings.look path))
      (hproject : PathSays .nothing surroundings (project.map projectFile))
      (htext : IsText surroundings.bindings)
      (hvariables : Layer.Unset surroundings.bindings) : OneFileSays choice surroundings project

/-- A choice that one file makes is loaded with the fallbacks. -/
theorem load_of_oneFileSays {choice : Choice} {surroundings : Surroundings}
    {project : Option Path} (h : OneFileSays choice surroundings project) :
    load surroundings project = .ok choice.settings := by
  cases h with
  | @project root hfile huser htext hvariables =>
    have hproject : PathSays choice surroundings ((some root).map projectFile) := hfile
    rw [load_eq_ok_of_choices hproject huser (variablesSay_nothing htext hvariables)]
    rfl
  | user hpath hfile hproject htext hvariables =>
    have huser : PathSays choice surroundings (userFile? surroundings) := by
      rw [hpath]
      exact hfile
    rw [load_eq_ok_of_choices hproject huser (variablesSay_nothing htext hvariables)]
    simp only [Choice.layered, Choice.nothing, Option.or_none, Option.none_or]
    rfl

/-- Every choice of values can be written as a file and as JSON.  Whichever way it is written,
    it is loaded from one file as the settings that are read from JSON: the chosen values, and
    the defaults of the settings for all others. -/
theorem load_eq_ofJson (choice : Choice) :
    FileSays choice (.file (Utf8.encode choice.document)) ∧
    (∃ document, JsonSays choice document) ∧
    ∀ (surroundings : Surroundings) (project : Option Path) (document : List Char),
      OneFileSays choice surroundings project → JsonSays choice document →
      ∃ settings, load surroundings project = .ok settings ∧ ofJson document = .ok settings ∧
        (∀ setting : Setting,
          setting.get settings = (choice setting).getD (setting.get ({} : Settings))) ∧
        (choice = .nothing → settings = {}) := by
  refine ⟨fileSays_document choice, exists_jsonSays choice, ?_⟩
  intro surroundings project document hfile hjson
  refine ⟨choice.settings, load_of_oneFileSays hfile, ofJson_of_jsonSays hjson,
    Setting.get_assemble _, ?_⟩
  rintro rfl
  rfl

/-- Two settings are given values, one of them with a quote in it, which the file writes by its
    number and JSON behind a backslash. -/
theorem load_eq_ofJson_quote :
    load (alone (Utf8.ofString "[tools]\nkcov = \"a\\u0022b\"\n[coverage]\nkeep_going = true\n") [])
        (some (Utf8.ofString "/work")) =
      .ok { tools := { kcov := "a\"b" }, coverage := { keepGoing := true } } ∧
    ofJson "\x7b\"coverage\":\x7b\"keep_going\":true\x7d,\"tools\":\x7b\"kcov\":\"a\\\"b\"\x7d\x7d".toList =
      .ok { tools := { kcov := "a\"b" }, coverage := { keepGoing := true } } := by
  let choice : Choice
    | .text .kcov => some "a\"b"
    | .keepGoing => some true
    | _ => none
  have hfile : OneFileSays choice
      (alone (Utf8.ofString "[tools]\nkcov = \"a\\u0022b\"\n[coverage]\nkeep_going = true\n") [])
      (some (Utf8.ofString "/work")) := by
    have huser (contents : Bytes) :
        PathSays .nothing (alone contents []) (userFile? (alone contents [])) := by
      have hpath : userFile? (alone [] []) =
          some (Utf8.ofString "/root/.config/kcov-runner/config.toml") := by decide +kernel
      have hne : Utf8.ofString "/root/.config/kcov-runner/config.toml" ≠
          projectFile (Utf8.ofString "/work") := by decide +kernel
      rw [show userFile? (alone contents []) = _ from hpath, PathSays, look_alone_of_ne _ _ hne]
      exact .nothing rfl
    refine .project ?_ (huser _) (List.forall_mem_nil _) (List.forall_mem_nil _)
    have htext : Utf8.ofString "[tools]\nkcov = \"a\\u0022b\"\n[coverage]\nkeep_going = true\n" =
        Utf8.encode choice.document := by decide +kernel
    rw [look_alone, htext]
    exact fileSays_document choice
  -- the members that are written, for each setting
  let own : Setting → List Json.Member
    | .text .kcov => [("kcov".toList.map .char, .string ("a\"b".toList.map .char))]
    | .keepGoing => [("keep_going".toList.map .char, .boolean true)]
    | _ => []
  have hown (setting : Setting) :
      Json.Gives setting.name setting.Writes (choice setting) (own setting) := by
    rcases setting with (_ | _ | _ | _ | _ | _) | _
    exacts [.absent, .absent, .given (Json.spellsText_char _) ⟨_, Json.spellsText_char _, rfl⟩,
      .absent, .absent, .absent, .given (Json.spellsText_char _) rfl]
  have hsection (settings : List Setting) :
      WritesSection choice settings (.object (settings.flatMap own ++ [])) :=
    .object (.refl _) (fun setting _ => hown setting) (List.forall_mem_nil _)
  have hwrites : WritesSettings choice (.object [
      ("coverage".toList.map .char, .object (coverageSettings.flatMap own ++ [])),
      ("tools".toList.map .char, .object (toolSettings.flatMap own ++ []))]) :=
    .object (List.Perm.swap ..) (.given (Json.spellsText_char _) (hsection toolSettings))
      (.given (Json.spellsText_char _) (hsection coverageSettings)) (List.forall_mem_nil _)
  have hname (name : List Char) (h : name.all fun c => c ≠ '"' ∧ c ≠ '\\' ∧ 0x20 ≤ c.toNat) :=
    Json.isPieces_char fun c hc => of_decide_eq_true (List.all_eq_true.mp h c hc)
  have hquote : Json.IsPieces ("a\"b".toList.map .char) "a\\\"b".toList :=
    .cons (.plain (by decide) (by decide) (by decide))
      (.cons (.escape (by decide)) (.cons (.plain (by decide) (by decide) (by decide)) .nil))
  have hcoverage : Json.IsValue (.object (coverageSettings.flatMap own ++ [])) _ :=
    .object (.items Json.spaces_nil
      (.colon (hname _ (by decide)) Json.spaces_nil Json.spaces_nil .true) (.close Json.spaces_nil))
  have htools : Json.IsValue (.object (toolSettings.flatMap own ++ [])) _ :=
    .object (.items Json.spaces_nil
      (.colon (hname _ (by decide)) Json.spaces_nil Json.spaces_nil (.string hquote))
      (.close Json.spaces_nil))
  have hvalue := Json.IsValue.object (.items Json.spaces_nil
    (.colon (hname "coverage".toList (by decide)) Json.spaces_nil Json.spaces_nil hcoverage)
    (.item Json.spaces_nil Json.spaces_nil
      (.colon (hname "tools".toList (by decide)) Json.spaces_nil Json.spaces_nil htools)
      (.close Json.spaces_nil)))
  have hjson : JsonSays choice
      "\x7b\"coverage\":\x7b\"keep_going\":true\x7d,\"tools\":\x7b\"kcov\":\"a\\\"b\"\x7d\x7d".toList :=
    ⟨_, hwrites, [], _, [], Json.spaces_nil, hvalue, Json.spaces_nil, by decide⟩
  obtain ⟨settings, hload, hofJson, hget, -⟩ := (load_eq_ofJson choice).2.2 _ _ _ hfile hjson
  have hsettings : settings =
      { tools := { kcov := "a\"b" }, coverage := { keepGoing := true } } := by
    apply Setting.eq_of_get_eq
    intro setting
    rw [hget]
    rcases setting with (_ | _ | _ | _ | _ | _) | _ <;> rfl
  rw [hload, hofJson, hsettings]
  exact ⟨rfl, rfl⟩

end TestCoverage.Settings
