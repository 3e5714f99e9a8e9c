/-
  TestCoverage.Proofs.Settings.Json

  Settings that are written as JSON.  A document gives values to some of the settings, in any
  order and in any spelling, and may say other things besides.  It is read as the settings
  with these values, and with their fallbacks where there are none.
-/
import TestCoverage.Proofs.Json.Writable
import TestCoverage.Proofs.Settings.Document
import TestCoverage.Settings.Json

namespace TestCoverage.Settings

open Json (FieldMeaning Independent IsDocument Others Reads SpellsText Writable WritableMember)

/-! ## How settings are written -/

/-- A value of the setting as JSON, a text in any spelling. -/
def Setting.Writes : (setting : Setting) → setting.Value → Json.Value → Prop
  | .text _, value, written =>
    ∃ pieces, SpellsText value.toList pieces ∧ written = .string pieces
  | .keepGoing, value, written => written = .boolean value

/-- An object with a member for each of the settings that is given a value, and with any
    members that are for no setting, in any order. -/
inductive WritesSection (choice : Choice) (settings : List Setting) : Json.Value → Prop where
  | object {members others : List Json.Member} {own : Setting → List Json.Member}
      (hperm : members.Perm (settings.flatMap own ++ others))
      (hown : ∀ setting ∈ settings,
        Json.Gives setting.name setting.Writes (choice setting) (own setting))
      (hothers : Others (settings.map Setting.name) others) :
      WritesSection choice settings (.object members)

/-- The member for a section.  It may be left out if none of the settings is given a value. -/
inductive GivesSection (choice : Choice) (name : String) (settings : List Setting) :
    List Json.Member → Prop where
  | absent (h : ∀ setting ∈ settings, choice setting = none) :
      GivesSection choice name settings []
  | given {value : Json.Value} {pieces : List Json.Piece} (hname : SpellsText name.toList pieces)
      (hvalue : WritesSection choice settings value) :
      GivesSection choice name settings [(pieces, value)]

/-- An object with the sections, and with any members that are for neither, in any order. -/
inductive WritesSettings (choice : Choice) : Json.Value → Prop where
  | object {members tools coverage others : List Json.Member}
      (hperm : members.Perm (tools ++ (coverage ++ others)))
      (htools : GivesSection choice "tools" toolSettings tools)
      (hcoverage : GivesSection choice "coverage" coverageSettings coverage)
      (hothers : Others ["tools", "coverage"] others) : WritesSettings choice (.object members)

/-- The document gives the chosen values to their settings, and says nothing else of any
    setting. -/
def JsonSays (choice : Choice) (document : List Char) : Prop :=
  ∃ value, WritesSettings choice value ∧ IsDocument value document

/-- The settings with the chosen values, and with their fallbacks where there are none. -/
def Choice.settings (choice : Choice) : Settings :=
  Setting.assemble fun setting => (choice setting).getD setting.fallback

/-! ## Every choice can be written -/

theorem Setting.exists_writes (setting : Setting) (value : setting.Value) :
    ∃ written, setting.Writes value written ∧ Writable written := by
  cases setting with
  | text setting =>
    obtain ⟨pieces, hspells, hwritable⟩ := Json.exists_writable_string value.toList
    exact ⟨_, ⟨pieces, hspells, rfl⟩, hwritable⟩
  | keepGoing => exact ⟨_, rfl, Json.writable_boolean value⟩

theorem exists_writesSection (choice : Choice) (settings : List Setting) :
    ∃ value, WritesSection choice settings value ∧ Writable value := by
  have hgives (setting : Setting) :=
    Json.exists_gives setting.name setting.exists_writes (choice setting)
  choose own hown hwritable using hgives
  have hperm : (settings.flatMap own).Perm (settings.flatMap own ++ []) := by
    rw [List.append_nil]
  refine ⟨_, .object hperm (fun setting _ => hown setting) (List.forall_mem_nil _), ?_⟩
  apply Json.writable_object
  intro member hmember
  obtain ⟨setting, -, hmember⟩ := List.mem_flatMap.mp hmember
  exact hwritable setting member hmember

theorem exists_givesSection (choice : Choice) (name : String) (settings : List Setting) :
    ∃ own, GivesSection choice name settings own ∧ ∀ member ∈ own, WritableMember member := by
  obtain ⟨value, hwrites, hvalue⟩ := exists_writesSection choice settings
  obtain ⟨pieces, hspells, hmember⟩ := hvalue.exists_member name
  exact ⟨_, .given hspells hwrites, List.forall_mem_singleton.mpr hmember⟩

theorem exists_jsonSays (choice : Choice) : ∃ document, JsonSays choice document := by
  obtain ⟨tools, htools, hwritableTools⟩ := exists_givesSection choice "tools" toolSettings
  obtain ⟨coverage, hcoverage, hwritableCoverage⟩ :=
    exists_givesSection choice "coverage" coverageSettings
  have hperm : (tools ++ coverage).Perm (tools ++ (coverage ++ [])) := by rw [List.append_nil]
  have hobject := Json.writable_object
    (List.forall_mem_append.mpr ⟨hwritableTools, hwritableCoverage⟩)
  obtain ⟨document, hdocument⟩ := hobject.exists_isDocument
  exact ⟨document, _, .object hperm htools hcoverage (List.forall_mem_nil _), hdocument⟩

/-! ## What a section is read as -/

/-- The value of the setting that is written so. -/
def Setting.meaning? : (setting : Setting) → Json.Value → Option setting.Value
  | .text _, value => (Json.text? value).map String.ofList
  | .keepGoing, value => Json.boolean? value

theorem Setting.meaning?_of_writes {setting : Setting} {value : setting.Value}
    {written : Json.Value} (h : setting.Writes value written) :
    setting.meaning? written = some value := by
  cases setting with
  | text setting =>
    obtain ⟨pieces, hspells, rfl⟩ := h
    rw [meaning?, Json.text?, hspells.unescape?_eq, Option.map_some, String.ofList_toList]
  | keepGoing =>
    cases h
    rfl

section
variable {choice : Choice} {settings : List Setting} {members : List Json.Member}

/-- The names of a section's members stand for texts. -/
theorem WritesSection.named (h : WritesSection choice settings (.object members)) :
    Json.Named members := by
  cases h with
  | object hperm hown hothers =>
    intro member hmember
    rcases List.mem_append.mp (hperm.mem_iff.mp hmember) with hmem | hmem
    · obtain ⟨setting, hsetting, hmem⟩ := List.mem_flatMap.mp hmem
      exact (hown setting hsetting).named member hmem
    · exact hothers.named member hmem

/-- The name of a setting leads to the member that is for it, if there is one. -/
theorem WritesSection.exists_gives (hnodup : settings.Nodup)
    (h : WritesSection choice settings (.object members)) {setting : Setting}
    (hmem : setting ∈ settings) :
    ∃ own, Json.Gives setting.name setting.Writes (choice setting) own ∧
      Json.valuesOf setting.name members = Json.valuesOf setting.name own := by
  cases h with
  | @object _ others own hperm hown hothers =>
    refine ⟨own setting, hown setting hmem, ?_⟩
    have hperm' : members.Perm
        (own setting ++ ((settings.erase setting).flatMap own ++ others)) := by
      refine hperm.trans ?_
      rw [← List.append_assoc]
      exact ((List.perm_cons_erase hmem).flatMap_right own).append_right others
    -- no other setting has the name
    have hrest : Json.valuesOf setting.name ((settings.erase setting).flatMap own) = [] := by
      apply Json.valuesOf_flatMap_eq_nil
      intro other hother
      obtain ⟨hne, hother⟩ := hnodup.mem_erase_iff.mp hother
      exact (hown other hother).valuesOf_of_ne fun heq => hne (Setting.name_injective heq).symm
    apply (hown setting hmem).valuesOf_eq hperm'
    rw [Json.valuesOf_append, hrest, List.nil_append]
    exact hothers.valuesOf_eq_nil (List.mem_map_of_mem hmem)

end

/-! ## The fields of a section -/

/-- A setting as a field of its section. -/
structure SectionField (σ : Type) where
  setting : Setting
  set : setting.Value → σ → σ

namespace SectionField

variable {σ : Type}

/-- What a value means for the field. -/
def meaning (field : SectionField σ) : FieldMeaning σ :=
  .of field.setting.name field.setting.meaning? field.set

/-- The section with the chosen value, or as it was if there is none. -/
def put (choice : Choice) (record : σ) (field : SectionField σ) : σ :=
  (choice field.setting).elim record (field.set · record)

theorem of_text_means (setting : TextSetting) (set : String → σ → σ) :
    (textField setting.name set).Means (meaning ⟨.text setting, set⟩) := by
  refine ⟨rfl, fun record => ?_⟩
  have hput : (meaning ⟨.text setting, set⟩).put? record = fun value =>
      (Json.text? value).map fun text => set (String.ofList text) record := by
    funext value
    simp [meaning, FieldMeaning.of, Setting.meaning?, Function.comp_def]
  rw [hput]
  exact (Json.reads_readText "a string").map fun text => set (String.ofList text) record

theorem of_bool_means (set : Bool → σ → σ) :
    (Json.Field.of "keep_going" Json.readBool set).Means (meaning ⟨.keepGoing, set⟩) :=
  Json.Field.of_means Json.reads_readBool ..

/-- Fields of different settings are independent if they can be set in either order. -/
theorem independent_of_commutes {fields : List (SectionField σ)}
    (h : fields.Pairwise fun a b => a.setting ≠ b.setting ∧
      ∀ v w record, a.set v (b.set w record) = b.set w (a.set v record)) :
    Independent (fields.map meaning) := by
  refine List.pairwise_map.mpr (h.imp fun hpair => ⟨?_, ?_⟩)
  · exact fun hname => hpair.1 (Setting.name_injective hname)
  · exact FieldMeaning.of_commutes fun w v record => hpair.2 v w record

variable {choice : Choice} {settings : List Setting} {members : List Json.Member}

/-- A field is set to what is chosen for it. -/
theorem assign?_meaning (hnodup : settings.Nodup)
    (h : WritesSection choice settings (.object members)) {field : SectionField σ}
    (hmem : field.setting ∈ settings) (record : σ) :
    field.meaning.assign? [] members record = some (field.put choice record) := by
  obtain ⟨own, hgives, hvalues⟩ := h.exists_gives hnodup hmem
  have hname : field.meaning.name = field.setting.name := rfl
  rw [FieldMeaning.assign?, hname, hvalues, put]
  generalize choice field.setting = chosen at hgives
  cases hgives with
  | absent => rfl
  | @given value written pieces hname hwrites =>
    rw [Json.valuesOf, hname.unescape?_eq, if_pos rfl, Json.valuesOf]
    simp [meaning, FieldMeaning.of, Setting.meaning?_of_writes hwrites]

theorem assignAll?_meaning (hnodup : settings.Nodup)
    (h : WritesSection choice settings (.object members)) {fields : List (SectionField σ)}
    (hfields : ∀ field ∈ fields, field.setting ∈ settings) (record : σ) :
    Json.assignAll? (fields.map meaning) [] members record =
      some (fields.foldl (put choice) record) := by
  induction fields generalizing record with
  | nil => rfl
  | cons field fields ih =>
    obtain ⟨hfield, hfields⟩ := List.forall_mem_cons.mp hfields
    rw [List.map_cons, Json.assignAll?, assign?_meaning hnodup h hfield, Option.bind_some,
      ih hfields, List.foldl_cons]

/-- A section is read as its default, with each field set to what is chosen for it. -/
theorem record?_meaning (hnodup : settings.Nodup) {value : Json.Value}
    (h : WritesSection choice settings value) {fields : List (SectionField σ)}
    (hindependent : Independent (fields.map meaning))
    (hfields : ∀ field ∈ fields, field.setting ∈ settings) (default : σ) :
    Json.record? (fields.map meaning) default value =
      some (fields.foldl (put choice) default) := by
  obtain ⟨members, rfl⟩ : ∃ members, value = .object members := by
    cases h
    exact ⟨_, rfl⟩
  rw [Json.record?_object hindependent, if_pos h.named, assignAll?_meaning hnodup h hfields]

end SectionField

/-! ## The two sections -/

/-- The programs as fields. -/
def toolFields : List (SectionField Tools) := [
  ⟨.text .cargo, fun cargo tools => { tools with cargo }⟩,
  ⟨.text .rustc, fun rustc tools => { tools with rustc }⟩,
  ⟨.text .kcov, fun kcov tools => { tools with kcov }⟩]

/-- The settings of a run as fields. -/
def coverageFields : List (SectionField Coverage) := [
  ⟨.text .rustflags, fun rustflags coverage => { coverage with rustflags }⟩,
  ⟨.text .excludePattern, fun excludePattern coverage => { coverage with excludePattern }⟩,
  ⟨.text .outputSubdir, fun outputSubdir coverage => { coverage with outputSubdir }⟩,
  ⟨.keepGoing, fun keepGoing coverage => { coverage with keepGoing }⟩]

/-- The programs that a value stands for. -/
def tools? : Json.Value → Option Tools :=
  Json.record? (toolFields.map SectionField.meaning) {}

/-- The settings of a run that a value stands for. -/
def coverage? : Json.Value → Option Coverage :=
  Json.record? (coverageFields.map SectionField.meaning) {}

theorem reads_tools : Reads Tools.shape.read tools? :=
  Json.Shape.reads (.cons (SectionField.of_text_means .cargo _)
    (.cons (SectionField.of_text_means .rustc _)
      (.cons (SectionField.of_text_means .kcov _) .nil)))

theorem reads_coverage : Reads Coverage.shape.read coverage? :=
  Json.Shape.reads (.cons (SectionField.of_text_means .rustflags _)
    (.cons (SectionField.of_text_means .excludePattern _)
      (.cons (SectionField.of_text_means .outputSubdir _)
        (.cons (SectionField.of_bool_means _) .nil))))

theorem independent_toolFields : Independent (toolFields.map SectionField.meaning) := by
  apply SectionField.independent_of_commutes
  simp [toolFields]

theorem independent_coverageFields : Independent (coverageFields.map SectionField.meaning) := by
  apply SectionField.independent_of_commutes
  simp [coverageFields]

theorem tools?_of_writes {choice : Choice} {value : Json.Value}
    (h : WritesSection choice toolSettings value) :
    tools? value = some choice.settings.tools := by
  rw [tools?, SectionField.record?_meaning (by decide) h independent_toolFields (by decide)]
  simp only [Choice.settings, Setting.assemble, toolFields, List.foldl_cons, List.foldl_nil,
    SectionField.put]
  cases choice (.text .cargo) <;> cases choice (.text .rustc) <;>
    cases choice (.text .kcov) <;> rfl

theorem coverage?_of_writes {choice : Choice} {value : Json.Value}
    (h : WritesSection choice coverageSettings value) :
    coverage? value = some choice.settings.coverage := by
  rw [coverage?,
    SectionField.record?_meaning (by decide) h independent_coverageFields (by decide)]
  simp only [Choice.settings, Setting.assemble, coverageFields, List.foldl_cons, List.foldl_nil,
    SectionField.put]
  cases choice (.text .rustflags) <;> cases choice (.text .excludePattern) <;>
    cases choice (.text .outputSubdir) <;> cases choice .keepGoing <;> rfl

/-! ## Documents -/

/-- The member for a section as one that may be there or not. -/
theorem GivesSection.exists_gives {choice : Choice} {name : String} {settings : List Setting}
    {own : List Json.Member} (h : GivesSection choice name settings own) :
    ∃ entry : Option Unit, Json.Gives name (fun _ => WritesSection choice settings) entry own ∧
      (entry = none → ∀ setting ∈ settings, choice setting = none) := by
  cases h with
  | absent hnone => exact ⟨none, .absent, fun _ => hnone⟩
  | given hname hvalue => exact ⟨some (), .given hname hvalue, nofun⟩

/-- The name of a section leads to its settings, which have their fallbacks if there is no
    member for it. -/
theorem GivesSection.member?_eq {σ : Type} {choice : Choice} {name : String}
    {settings : List Setting} {own : List Json.Member} {meaning? : Json.Value → Option σ}
    {record default : σ} (h : GivesSection choice name settings own)
    (hmeaning : ∀ value, WritesSection choice settings value → meaning? value = some record)
    (hdefault : (∀ setting ∈ settings, choice setting = none) → default = record)
    {members rest : List Json.Member} (hperm : members.Perm (own ++ rest))
    (hrest : Json.valuesOf name rest = []) :
    Json.member? name meaning? default members = some record := by
  obtain ⟨entry, hgives, hnone⟩ := h.exists_gives
  have hread : Json.member? name meaning? default members = _ :=
    hgives.member?_eq (fun _ value hvalue => hmeaning value hvalue) hperm hrest
  rw [hread]
  cases entry with
  | none => rw [Option.elim_none, hdefault (hnone rfl)]
  | some _ => rfl

theorem GivesSection.named {choice : Choice} {name : String} {settings : List Setting}
    {own : List Json.Member} (h : GivesSection choice name settings own) : Json.Named own := by
  obtain ⟨entry, hgives, -⟩ := h.exists_gives
  exact hgives.named

theorem GivesSection.valuesOf_of_ne {choice : Choice} {name : String} {settings : List Setting}
    {own : List Json.Member} (h : GivesSection choice name settings own) {other : String}
    (hother : other ≠ name) : Json.valuesOf other own = [] := by
  obtain ⟨entry, hgives, -⟩ := h.exists_gives
  exact hgives.valuesOf_of_ne hother

/-- The programs of a choice that names none are the defaults. -/
theorem default_eq_tools {choice : Choice} (h : ∀ setting ∈ toolSettings, choice setting = none) :
    {} = choice.settings.tools := by
  simp only [toolSettings, List.forall_mem_cons] at h
  simp only [Choice.settings, Setting.assemble, h]
  rfl

theorem default_eq_coverage {choice : Choice}
    (h : ∀ setting ∈ coverageSettings, choice setting = none) :
    {} = choice.settings.coverage := by
  simp only [coverageSettings, List.forall_mem_cons] at h
  simp only [Choice.settings, Setting.assemble, h]
  rfl

/-- The sections as fields. -/
def sectionFields : List (FieldMeaning Settings) := [
  .of "tools" tools? fun tools settings => { settings with tools },
  .of "coverage" coverage? fun coverage settings => { settings with coverage }]

theorem reads_settings : Reads shape.read (Json.record? sectionFields {}) :=
  Json.Shape.reads (.cons (Json.Field.of_means reads_tools ..)
    (.cons (Json.Field.of_means reads_coverage ..) .nil))

theorem independent_sectionFields : Independent sectionFields := by
  refine List.pairwise_pair.mpr ⟨by decide, ?_⟩
  exact FieldMeaning.of_commutes fun _ _ _ => rfl

/-- However a choice is written, its settings are read. -/
theorem record?_of_writesSettings {choice : Choice} {value : Json.Value}
    (h : WritesSettings choice value) :
    Json.record? sectionFields {} value = some choice.settings := by
  cases h with
  | @object members tools coverage others hperm htools hcoverage hothers =>
    have hnamed : Json.Named members := fun member hmember =>
      (List.forall_mem_append.mpr
        ⟨htools.named, List.forall_mem_append.mpr ⟨hcoverage.named, hothers.named⟩⟩) member
        (hperm.mem_iff.mp hmember)
    have htoolsRead : Json.member? "tools" tools? {} members = some choice.settings.tools := by
      refine htools.member?_eq (fun _ => tools?_of_writes) default_eq_tools hperm ?_
      rw [Json.valuesOf_append, hcoverage.valuesOf_of_ne (by decide),
        hothers.valuesOf_eq_nil (by simp), List.append_nil]
    -- seen from the second section, the member for the first is among the others
    have hperm' : members.Perm (coverage ++ (tools ++ others)) :=
      hperm.trans (List.perm_append_comm_assoc ..)
    have hcoverageRead :
        Json.member? "coverage" coverage? {} members = some choice.settings.coverage := by
      refine hcoverage.member?_eq (fun _ => coverage?_of_writes) default_eq_coverage hperm' ?_
      rw [Json.valuesOf_append, htools.valuesOf_of_ne (by decide),
        hothers.valuesOf_eq_nil (by simp), List.append_nil]
    rw [Json.record?_object independent_sectionFields, if_pos hnamed, sectionFields,
      Json.assignAll?, FieldMeaning.of_assign? "tools" tools? _ (show _ = ({} : Settings) from rfl),
      htoolsRead, Option.map_some, Option.bind_some, Json.assignAll?,
      FieldMeaning.of_assign? "coverage" coverage? _
        (show _ = ({ tools := choice.settings.tools } : Settings) from rfl), hcoverageRead]
    rfl

/-- A document is read as the settings with the values that it gives. -/
theorem ofJson_of_jsonSays {choice : Choice} {document : List Char}
    (h : JsonSays choice document) : ofJson document = .ok choice.settings := by
  obtain ⟨value, hwrites, hdocument⟩ := h
  exact (Json.readDocument_eq_ok_iff reads_settings).mpr
    ⟨value, hdocument, record?_of_writesSettings hwrites⟩

end TestCoverage.Settings
