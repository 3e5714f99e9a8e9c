/-
  TestCoverage.Proofs.Settings.Document

  A document for any choice of values: its two sections in order, and in each of them the
  settings that are given a value.
-/
import TestCoverage.Proofs.Settings.Sources
import TestCoverage.Proofs.Toml.Written

namespace TestCoverage.Settings

/-- The settings of the first section. -/
def toolSettings : List Setting :=
  [.text .cargo, .text .rustc, .text .kcov]

/-- The settings of the second section. -/
def coverageSettings : List Setting :=
  [.text .rustflags, .text .excludePattern, .text .outputSubdir, .keepGoing]

/-- There are no others. -/
theorem Setting.mem_settings (setting : Setting) : setting ∈ toolSettings ++ coverageSettings := by
  rcases setting with (_ | _ | _ | _ | _ | _) | _ <;> decide

namespace Choice

/-- The entries of a section: those of its settings that are given a value. -/
def members (choice : Choice) (settings : List Setting) : List (String × Toml.Value) :=
  settings.filterMap fun setting =>
    (choice setting).map fun value => (setting.name, setting.written value)

/-- The entries of the document. -/
def entries (choice : Choice) : List (String × Toml.Value) :=
  [("tools", .table (choice.members toolSettings)),
    ("coverage", .table (choice.members coverageSettings))]

theorem mem_members_iff {choice : Choice} {settings : List Setting}
    {member : String × Toml.Value} :
    member ∈ choice.members settings ↔ ∃ setting ∈ settings, ∃ value,
      choice setting = some value ∧ member = (setting.name, setting.written value) := by
  simp only [members, List.mem_filterMap, Option.map_eq_some_iff]
  constructor
  · rintro ⟨setting, hmem, value, hvalue, rfl⟩
    exact ⟨setting, hmem, value, hvalue, rfl⟩
  · rintro ⟨setting, hmem, value, hvalue, rfl⟩
    exact ⟨setting, hmem, value, hvalue, rfl⟩

/-- The entries say what is chosen. -/
theorem documentSays_entries (choice : Choice) : DocumentSays choice choice.entries := by
  have hsection {name : String} {settings : List Setting}
      (hsettings : ∀ setting ∈ settings, name = setting.sectionName) :
      ∀ member ∈ choice.members settings, ∃ (setting : Setting) (value : setting.Value),
        name = setting.sectionName ∧ member = (setting.name, setting.written value) ∧
        choice setting = some value := by
    intro member hmember
    obtain ⟨setting, hmem, value, hvalue, heq⟩ := mem_members_iff.mp hmember
    exact ⟨setting, value, hsettings setting hmem, heq, hvalue⟩
  constructor
  · intro entry hentry
    rcases List.mem_cons.mp hentry with rfl | hentry
    · exact ⟨⟨.text .cargo, rfl⟩, _, rfl,
        hsection (show ∀ setting ∈ toolSettings, "tools" = setting.sectionName by decide)⟩
    · obtain rfl := List.mem_singleton.mp hentry
      exact ⟨⟨.keepGoing, rfl⟩, _, rfl,
        hsection (show ∀ setting ∈ coverageSettings, "coverage" = setting.sectionName by decide)⟩
  · intro setting value hvalue
    have hmember {settings : List Setting} (hmem : setting ∈ settings) :
        (setting.name, setting.written value) ∈ choice.members settings :=
      mem_members_iff.mpr ⟨setting, hmem, value, hvalue, rfl⟩
    have hmem : (setting.sectionName = "tools" ∧ setting ∈ toolSettings) ∨
        (setting.sectionName = "coverage" ∧ setting ∈ coverageSettings) := by
      rcases setting with (_ | _ | _ | _ | _ | _) | _ <;> decide
    rcases hmem with ⟨hname, hmem⟩ | ⟨hname, hmem⟩
    · exact ⟨_, hname ▸ List.mem_cons_self, hmember hmem⟩
    · exact ⟨_, hname ▸ List.mem_cons_of_mem _ List.mem_cons_self, hmember hmem⟩

end Choice

/-! ## The text -/

/-- The text of a value. -/
def Setting.valueText : (setting : Setting) → setting.Value → List Char
  | .text _, value => Toml.quoted value.toList
  | .keepGoing, true => ['t', 'r', 'u', 'e']
  | .keepGoing, false => ['f', 'a', 'l', 's', 'e']

/-- The line that gives a setting its value. -/
def Setting.line (setting : Setting) (value : setting.Value) : List Char :=
  setting.name.toList ++ ' ' :: '=' :: ' ' :: (setting.valueText value ++ ['\n'])

namespace Choice

/-- The lines of a section. -/
def lines (choice : Choice) (settings : List Setting) : List Char :=
  settings.flatMap fun setting => ((choice setting).map setting.line).getD []

/-- A section with its header. -/
def table (choice : Choice) (name : String) (settings : List Setting) : List Char :=
  '[' :: (name.toList ++ ']' :: '\n' :: choice.lines settings)

/-- The document. -/
def document (choice : Choice) : List Char :=
  choice.table "tools" toolSettings ++ choice.table "coverage" coverageSettings

end Choice

/-! ## Reading it back -/

theorem readValue_valueText (setting : Setting) (value : setting.Value) (rest : List Char) :
    Toml.readValue (setting.valueText value ++ '\n' :: rest) =
      some (setting.written value, '\n' :: rest) := by
  cases setting with
  | text setting =>
    have hread := @Toml.readValue_quoted value.toList ('\n' :: rest) (by simp)
    rwa [String.ofList_toList] at hread
  | keepGoing => cases value <;> rfl

theorem readKey_name (setting : Setting) (rest : List Char) :
    Toml.readKey (setting.name.toList ++ ' ' :: '=' :: rest) =
      some ([setting.name], '=' :: rest) := by
  rcases setting with (_ | _ | _ | _ | _ | _) | _ <;> rfl

theorem skipSpace_valueText (setting : Setting) (value : setting.Value) (rest : List Char) :
    Toml.skipSpace (' ' :: (setting.valueText value ++ rest)) =
      setting.valueText value ++ rest := by
  cases setting with
  | text setting => rfl
  | keepGoing => cases value <;> rfl

theorem readAssignment_line (setting : Setting) (value : setting.Value) (rest : List Char) :
    Toml.readAssignment (setting.line value ++ rest) =
      some (.entry [setting.name] (setting.written value), rest) := by
  have hline : setting.line value ++ rest =
      setting.name.toList ++ ' ' :: '=' :: ' ' :: (setting.valueText value ++ '\n' :: rest) := by
    simp [Setting.line]
  rw [hline, Toml.readAssignment, Toml.readEntry, readKey_name]
  simp only [skipSpace_valueText, readValue_valueText, Option.map_some]
  rfl

/-- A line begins neither with white space nor as a comment, an empty line or a header. -/
theorem exists_line_eq_cons (setting : Setting) (value : setting.Value) :
    ∃ c text, setting.line value = c :: text ∧ Toml.isSpace c = false ∧
      c ≠ '#' ∧ c ≠ '\n' ∧ c ≠ '\r' ∧ c ≠ '[' := by
  rcases setting with (_ | _ | _ | _ | _ | _) | _ <;>
    exact ⟨_, _, rfl, by decide, by decide⟩

/-- The lines of a section are read as its assignments. -/
theorem readsAs_lines (choice : Choice) (settings : List Setting) {rest : List Char}
    {statements : List Toml.Statement} (hrest : Toml.ReadsAs rest statements) :
    Toml.ReadsAs (choice.lines settings ++ rest)
      (Toml.assignments (choice.members settings) ++ statements) := by
  induction settings with
  | nil => exact hrest
  | cons setting settings ih =>
    rcases hchoice : choice setting with _ | value
    · simpa [Choice.lines, Toml.assignments, Choice.members, hchoice] using ih
    · have hlines : choice.lines (setting :: settings) ++ rest =
          setting.line value ++ (choice.lines settings ++ rest) := by
        simp [Choice.lines, hchoice]
      have hassignments : Toml.assignments (choice.members (setting :: settings)) ++ statements =
          .entry [setting.name] (setting.written value) ::
            (Toml.assignments (choice.members settings) ++ statements) := by
        simp [Toml.assignments, Choice.members, hchoice]
      rw [hlines, hassignments]
      have hread := readAssignment_line setting value (choice.lines settings ++ rest)
      obtain ⟨c, text, hcons, hspace, hc⟩ := exists_line_eq_cons setting value
      rw [hcons, List.cons_append] at hread ⊢
      exact .assignment hspace hc hread (by simp) ih

theorem readsAs_table (choice : Choice) {name : String}
    (hname : ∀ rest, Toml.readHeader (name.toList ++ ']' :: '\n' :: rest) =
      some (.table [name], rest))
    (settings : List Setting) {rest : List Char} {statements : List Toml.Statement}
    (hrest : Toml.ReadsAs rest statements) :
    Toml.ReadsAs (choice.table name settings ++ rest)
      (.table [name] :: (Toml.assignments (choice.members settings) ++ statements)) := by
  have hlines := readsAs_lines choice settings hrest
  have htable : choice.table name settings ++ rest =
      '[' :: (name.toList ++ ']' :: '\n' :: (choice.lines settings ++ rest)) := by
    simp [Choice.table]
  rw [htable]
  exact .header (hname _) (by simp; omega) hlines

theorem statements?_document (choice : Choice) :
    Toml.statements? choice.document =
      some (.table ["tools"] :: (Toml.assignments (choice.members toolSettings) ++
        .table ["coverage"] :: (Toml.assignments (choice.members coverageSettings) ++ []))) := by
  have hcoverage := @readsAs_table choice "coverage" (fun _ => rfl) coverageSettings _ _
    Toml.readsAs_nil
  have htools := @readsAs_table choice "tools" (fun _ => rfl) toolSettings _ _ hcoverage
  rw [List.append_nil] at htools
  exact htools _ (Nat.lt_succ_self _)

theorem members_sublist (choice : Choice) (settings : List Setting) :
    ((choice.members settings).map Prod.fst).Sublist (settings.map Setting.name) := by
  induction settings with
  | nil => exact .slnil
  | cons setting settings ih =>
    rcases hchoice : choice setting with _ | value
    · rw [Choice.members, List.filterMap_cons, hchoice]
      exact .cons _ ih
    · rw [Choice.members, List.filterMap_cons, hchoice]
      exact .cons_cons _ ih

theorem name_ne_momentKey (setting : Setting) : setting.name ≠ Toml.momentKey := by
  rcases setting with (_ | _ | _ | _ | _ | _) | _ <;> decide

theorem resolve?_written (setting : Setting) (value : setting.Value) :
    (setting.written value).resolve? = some (setting.written value) := by
  cases setting <;> simp [Setting.written, Toml.Value.resolve?]

/-- No section is taken for a moment. -/
theorem resolve?_members (choice : Choice) (settings : List Setting) :
    Toml.Value.resolve? (.table (choice.members settings)) =
      some (.table (choice.members settings)) := by
  apply Toml.resolve?_table
  intro member hmember
  obtain ⟨setting, -, value, -, rfl⟩ := Choice.mem_members_iff.mp hmember
  exact ⟨name_ne_momentKey setting, resolve?_written setting value⟩

/-- The document of a choice is read as its entries. -/
theorem parse?_document (choice : Choice) :
    Toml.parse? choice.document = some (.table choice.entries) := by
  have htools := (members_sublist choice toolSettings).nodup (by decide)
  have hcoverage := (members_sublist choice coverageSettings).nodup (by decide)
  let draft : Toml.Draft :=
    [("tools", .table false false (Toml.drafted (choice.members toolSettings))),
      ("coverage", .table false false (Toml.drafted (choice.members coverageSettings)))]
  have hcarry : Toml.carryOut
      (.table ["tools"] :: (Toml.assignments (choice.members toolSettings) ++
        .table ["coverage"] :: (Toml.assignments (choice.members coverageSettings) ++ []))) [] =
      some draft := by
    rw [Toml.carryOut_table htools rfl (by simp), Toml.carryOut_table hcoverage rfl (by simp)]
    rfl
  have hvalues : Toml.Node.toValues draft = choice.entries := by
    simp only [draft, Toml.Node.toValues, Toml.Node.toValue, Toml.toValues_drafted,
      Choice.entries]
  -- a table that begins with a certain key would stand for a moment
  have hresolve : Toml.Value.resolve? (.table choice.entries) = some (.table choice.entries) := by
    apply Toml.resolve?_table
    intro entry hentry
    rcases List.mem_cons.mp hentry with rfl | hentry
    · exact ⟨show "tools" ≠ Toml.momentKey by decide, resolve?_members choice toolSettings⟩
    · obtain rfl := List.mem_singleton.mp hentry
      exact ⟨show "coverage" ≠ Toml.momentKey by decide,
        resolve?_members choice coverageSettings⟩
  rw [Toml.parse?, statements?_document]
  simp only [Option.bind_eq_bind, Option.bind_some, Toml.leadingEntries, Toml.assignAll,
    List.foldlM_nil, pure, hcarry, hvalues, hresolve]

end TestCoverage.Settings
