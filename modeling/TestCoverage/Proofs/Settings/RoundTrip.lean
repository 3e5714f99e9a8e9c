/-
  TestCoverage.Proofs.Settings.RoundTrip

  Settings that are written as JSON and read back, whole or in part.  What is written comes
  back, and what is left out, alone or with its whole section, comes back as its fallback.
-/
import TestCoverage.Proofs.Settings.Json

namespace TestCoverage.Settings

/-- The values of those settings that are kept. -/
def Choice.keeping (kept : Setting → Bool) (settings : Settings) : Choice :=
  fun setting => if kept setting then some (setting.get settings) else none

theorem get_settings_keeping (kept : Setting → Bool) (settings : Settings) (setting : Setting) :
    setting.get (Choice.keeping kept settings).settings =
      if kept setting then setting.get settings else setting.fallback := by
  rw [Choice.settings, Setting.get_assemble, Choice.keeping]
  split <;> rfl

/-- If every value is kept, the settings come back. -/
theorem settings_keeping_of_all {kept : Setting → Bool} (hall : ∀ setting, kept setting = true)
    (settings : Settings) : (Choice.keeping kept settings).settings = settings := by
  apply Setting.eq_of_get_eq
  intro setting
  rw [get_settings_keeping, if_pos (hall setting)]

/-- Any part of any settings can be written, and however it is written, with sections and
    members in any order and with members that are for no setting, it is read as settings
    that have the values of this part, and fallbacks for all others. -/
theorem ofJson_keeping (kept : Setting → Bool) (settings : Settings) :
    (∃ document, JsonSays (.keeping kept settings) document) ∧
    ∀ document, JsonSays (.keeping kept settings) document →
      ∃ read, ofJson document = .ok read ∧
        (∀ setting : Setting, setting.get read =
          if kept setting then setting.get settings else setting.get ({} : Settings)) ∧
        ((∀ setting, kept setting = true) → read = settings) := by
  refine ⟨exists_jsonSays _, fun document hdocument => ?_⟩
  refine ⟨_, ofJson_of_jsonSays hdocument, get_settings_keeping kept settings, fun hall => ?_⟩
  exact settings_keeping_of_all hall settings

/-- One setting is kept, behind a member that is for no setting; the other section is there but
    empty. -/
theorem ofJson_keeping_subdir :
    ofJson ("\x7b\"x\":[null],\"coverage\":\x7b\"output_subdir\":\"\\u0063\\\"v\"\x7d," ++
        "\"tools\":\x7b\x7d\x7d").toList =
      .ok { coverage := { outputSubdir := "c\"v" } } := by
  let kept : Setting → Bool := fun setting => setting = .text .outputSubdir
  let settings : Settings := { tools := { kcov := "k" }, coverage := { outputSubdir := "c\"v" } }
  let text : List Json.Piece := [.unit 0x63, .char '"', .char 'v']
  have hspells : Json.SpellsText "c\"v".toList text :=
    .cons (@Json.Spells.unit 'c' (by decide)) (Json.spellsText_char ['"', 'v'])
  -- the members that are written, for each setting
  let own : Setting → List Json.Member
    | .text .outputSubdir => [("output_subdir".toList.map .char, .string text)]
    | _ => []
  have hown (setting : Setting) :
      Json.Gives setting.name setting.Writes (Choice.keeping kept settings setting)
        (own setting) := by
    rcases setting with (_ | _ | _ | _ | _ | _) | _
    exacts [.absent, .absent, .absent, .absent, .absent,
      .given (Json.spellsText_char _) ⟨_, hspells, rfl⟩, .absent]
  have hsection (list : List Setting) :
      WritesSection (.keeping kept settings) list (.object (list.flatMap own ++ [])) :=
    .object (.refl _) (fun setting _ => hown setting) (List.forall_mem_nil _)
  have hother : Json.Others ["tools", "coverage"] [("x".toList.map .char, .list [.null])] :=
    List.forall_mem_singleton.mpr ⟨"x".toList, Json.spellsText_char _, by decide⟩
  have hperm (a b c : Json.Member) : [a, b, c].Perm ([c] ++ ([b] ++ [a])) :=
    List.reverse_perm [c, b, a]
  have hwrites : WritesSettings (.keeping kept settings) (.object [
      ("x".toList.map .char, .list [.null]),
      ("coverage".toList.map .char, .object (coverageSettings.flatMap own ++ [])),
      ("tools".toList.map .char, .object (toolSettings.flatMap own ++ []))]) :=
    .object (hperm ..)
      (.given (Json.spellsText_char _) (hsection toolSettings))
      (.given (Json.spellsText_char _) (hsection coverageSettings)) hother
  have hname (name : List Char) (h : name.all fun c => c ≠ '"' ∧ c ≠ '\\' ∧ 0x20 ≤ c.toNat) :=
    Json.isPieces_char fun c hc => of_decide_eq_true (List.all_eq_true.mp h c hc)
  have htext : Json.IsPieces text "\\u0063\\\"v".toList :=
    .cons (@Json.IsPiece.unit '0' '0' '6' '3' 0 0 6 3 rfl rfl rfl rfl)
      (.cons (.escape (by decide)) (.cons (.plain (by decide) (by decide) (by decide)) .nil))
  have hx : Json.IsValue (.list [.null]) _ :=
    .list (.items Json.spaces_nil .null (.close Json.spaces_nil))
  have hcoverage : Json.IsValue (.object (coverageSettings.flatMap own ++ [])) _ :=
    .object (.items Json.spaces_nil
      (.colon (hname "output_subdir".toList (by decide)) Json.spaces_nil Json.spaces_nil
        (.string htext)) (.close Json.spaces_nil))
  have htools : Json.IsValue (.object (toolSettings.flatMap own ++ [])) _ :=
    .object (.empty Json.spaces_nil)
  have hvalue := Json.IsValue.object (.items Json.spaces_nil
    (.colon (hname "x".toList (by decide)) Json.spaces_nil Json.spaces_nil hx)
    (.item Json.spaces_nil Json.spaces_nil
      (.colon (hname "coverage".toList (by decide)) Json.spaces_nil Json.spaces_nil hcoverage)
      (.item Json.spaces_nil Json.spaces_nil
        (.colon (hname "tools".toList (by decide)) Json.spaces_nil Json.spaces_nil htools)
        (.close Json.spaces_nil))))
  have hjson : JsonSays (.keeping kept settings) _ :=
    ⟨_, hwrites, [], _, [], Json.spaces_nil, hvalue, Json.spaces_nil, rfl⟩
  obtain ⟨read, hread, hget, -⟩ := (ofJson_keeping kept settings).2 _ hjson
  have hsettings : read = { coverage := { outputSubdir := "c\"v" } } := by
    apply Setting.eq_of_get_eq
    intro setting
    rw [hget]
    rcases setting with (_ | _ | _ | _ | _ | _) | _ <;> rfl
  rw [← hsettings, ← hread]
  rfl

end TestCoverage.Settings
