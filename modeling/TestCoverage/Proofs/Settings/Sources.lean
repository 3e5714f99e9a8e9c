/-
  TestCoverage.Proofs.Settings.Sources

  Files and variables that give settings well-typed values and say nothing else, and the
  layers that come of them.
-/
import TestCoverage.Proofs.Entries
import TestCoverage.Proofs.Settings.Overlay
import TestCoverage.Proofs.Settings.Variable

namespace TestCoverage.Settings

/-! ## Documents -/

/-- A value of the setting as a document writes it. -/
def Setting.written : (setting : Setting) → setting.Value → Toml.Value
  | .text _, value => .string value
  | .keepGoing, value => .boolean value

/-- A document with these entries gives the chosen values to their settings, each under its
    name in its section, and says nothing else. -/
structure DocumentSays (choice : Choice) (entries : List (String × Toml.Value)) : Prop where
  only : ∀ entry ∈ entries, (∃ setting : Setting, entry.1 = setting.sectionName) ∧
    ∃ inner, entry.2 = .table inner ∧ ∀ member ∈ inner,
      ∃ (setting : Setting) (value : setting.Value), entry.1 = setting.sectionName ∧
        member = (setting.name, setting.written value) ∧ choice setting = some value
  all : ∀ (setting : Setting) (value : setting.Value), choice setting = some value →
    ∃ inner, (setting.sectionName, .table inner) ∈ entries ∧
      (setting.name, setting.written value) ∈ inner

/-- The items of a document's entries. -/
theorem ofEntries_entryData (origin : Option String) (entries : List (String × Toml.Value)) :
    Item.ofEntries origin (Toml.entryData entries) =
      entries.map fun entry => (entry.1, Item.ofDatum origin entry.2.datum) := by
  induction entries with
  | nil => rfl
  | cons entry entries ih => rw [Toml.entryData, Item.ofEntries, ih, List.map_cons]

theorem ofDatum_written (origin : Option String) (setting : Setting) (value : setting.Value) :
    Item.ofDatum origin (setting.written value).datum = .scalar origin (setting.scalar value) := by
  cases setting <;> rfl

theorem DocumentSays.layer {choice : Choice} {entries : List (String × Toml.Value)}
    (h : DocumentSays choice entries) (origin : Option String) :
    Layer.Says choice (Item.ofEntries origin (Toml.entryData entries)) := by
  rw [ofEntries_entryData]
  constructor
  · intro entry hentry
    obtain ⟨⟨name, _⟩, hmem, rfl⟩ := List.mem_map.mp hentry
    obtain ⟨⟨section', hsection⟩, inner, rfl, hinner⟩ := h.only _ hmem
    simp only [Toml.Value.datum, Item.ofDatum, ofEntries_entryData]
    refine ⟨⟨section', hsection⟩, fun member hmember => ?_⟩
    obtain ⟨_, hmem', rfl⟩ := List.mem_map.mp hmember
    obtain ⟨setting, value, hname, rfl, hvalue⟩ := hinner _ hmem'
    exact ⟨setting, value, origin, hname, by rw [ofDatum_written], hvalue⟩
  · intro setting value hvalue
    obtain ⟨inner, hsection, hmember⟩ := h.all setting value hvalue
    refine ⟨_, List.mem_map_of_mem hsection, rfl, origin, ?_⟩
    rw [ofEntries_entryData, ← ofDatum_written]
    exact List.mem_map_of_mem hmember

/-- What is found at a path gives the chosen values to their settings and says nothing else:
    a document in TOML, or no file if there are none. -/
inductive FileSays (choice : Choice) : Sight → Prop
  | nothing (h : choice = .nothing) : FileSays choice .nothing
  | document {contents : Bytes} {text : List Char} {entries : List (String × Toml.Value)}
      (htext : Utf8.decode? contents = some text)
      (hdocument : Toml.parse? text = some (.table entries))
      (h : DocumentSays choice entries) : FileSays choice (.file contents)

theorem FileSays.layer {choice : Choice} {sight : Sight} (h : FileSays choice sight)
    (directory path : Path) :
    ∃ layer, Layer.ofSight .toml directory path sight = .ok layer ∧ layer.Says choice := by
  cases h with
  | nothing h =>
    subst h
    exact ⟨[], rfl, nofun, nofun⟩
  | document htext hdocument h =>
    refine ⟨_, ?_, h.layer (some (Utf8.display (path.relativeTo directory)))⟩
    simp only [Layer.ofSight, htext, Layer.ofDocument, Format.read, hdocument, Toml.Value.datum]

/-- No other file takes the place of one that says something. -/
theorem FileSays.ofFile_eq {choice : Choice} {surroundings : Surroundings} {path : Path}
    (h : FileSays choice (surroundings.look path)) :
    Layer.ofFile surroundings path =
      Layer.ofSight .toml surroundings.directory path (surroundings.look path) := by
  unfold Layer.ofFile
  generalize surroundings.look path = sight at h
  cases h <;> rfl

/-! ## Variables -/

/-- A value of the setting as a variable spells it. -/
def Setting.spelled : (setting : Setting) → setting.Value → String
  | .text _, value => value
  | .keepGoing, value => if value then "true" else "false"

/-- The variables are text.  Those of the program give the chosen values to their settings, the
    text settings by plain text. -/
structure VariablesSay (choice : Choice) (bindings : VariableBlock) : Prop where
  text : IsText bindings
  only : ∀ binding ∈ bindings.named, Layer.keyOf? binding.1 ≠ none →
    ∃ (setting : Setting) (value : setting.Value), choice setting = some value ∧
      binding = (setting.variableName, Utf8.ofString (setting.spelled value))
  all : ∀ (setting : Setting) (value : setting.Value), choice setting = some value →
    (setting.variableName, Utf8.ofString (setting.spelled value)) ∈ bindings.named
  plain : ∀ (setting : TextSetting) (text : String), choice (.text setting) = some text →
    IsPlain text

theorem scalarOf_of_isPlain {text : String} (h : IsPlain text) :
    Layer.scalarOf text.toList = .text text := by
  have hword {word : String} (hne : Text.lowered text ≠ word) :
      Text.lowerCase text.toList ≠ word.toList := by
    intro heq
    rw [Text.lowered, heq, String.ofList_toList] at hne
    exact hne rfl
  simp only [Layer.scalarOf, hword h.not_true, hword h.not_false, if_false, h.not_integer,
    h.not_float, String.ofList_toList]

theorem VariablesSay.scalarOf_spelled {choice : Choice} {bindings : VariableBlock}
    (h : VariablesSay choice bindings) {setting : Setting} {value : setting.Value}
    (hvalue : choice setting = some value) :
    Layer.scalarOf (setting.spelled value).toList = setting.scalar value := by
  cases setting with
  | text setting => exact scalarOf_of_isPlain (h.plain setting value hvalue)
  | keepGoing => cases value <;> decide +kernel

/-- The text of a variable of which the bytes are known. -/
theorem mem_named_map_bytesOf {values : Entries (List Char)} {name text : String} :
    (name, Utf8.ofString text) ∈ VariableBlock.named (values.map bytesOf) ↔
      (name, text.toList) ∈ values := by
  rw [named_map_bytesOf, List.mem_map, Prod.exists]
  simp only [Prod.mk.injEq, Utf8.ofString, Utf8.encode_injective.eq_iff, exists_eq_right_right,
    exists_eq_right]

theorem mem_filterMap_ofVariable?_iff {values : Entries (List Char)} {entry : String × Item} :
    entry ∈ values.filterMap Layer.ofVariable? ↔ ∃ name text key, (name, text) ∈ values ∧
      Layer.keyOf? name = some key ∧
      entry = (key, .scalar (some "the environment") (Layer.scalarOf text)) := by
  simp only [List.mem_filterMap, Prod.exists, Layer.ofVariable?, Option.map_eq_some_iff,
    exists_and_left, eq_comm (b := entry)]

/-- A variable of the program gives its setting the chosen value. -/
theorem VariablesSay.exists_setting {choice : Choice} {values : Entries (List Char)}
    (h : VariablesSay choice (values.map bytesOf)) {entry : String × Item}
    (hentry : entry ∈ values.filterMap Layer.ofVariable?) :
    ∃ (setting : Setting) (value : setting.Value), choice setting = some value ∧
      entry = (setting.key, .scalar (some "the environment") (setting.scalar value)) := by
  obtain ⟨name, text, key, hmem, hkey, rfl⟩ := mem_filterMap_ofVariable?_iff.mp hentry
  rw [← String.toList_ofList (l := text), ← mem_named_map_bytesOf] at hmem
  obtain ⟨setting, value, hvalue, heq⟩ := h.only _ hmem (by rw [hkey]; nofun)
  obtain ⟨rfl, htext⟩ := Prod.mk.inj heq
  rw [setting.keyOf?_variableName, Option.some.injEq] at hkey
  have hscalar := h.scalarOf_spelled hvalue
  rw [← Utf8.ofString_injective htext, String.toList_ofList] at hscalar
  exact ⟨setting, value, hvalue, by rw [hscalar, hkey]⟩

theorem VariablesSay.layer {choice : Choice} {values : Entries (List Char)}
    (h : VariablesSay choice (values.map bytesOf)) : (Layer.ofVariables values).Says choice := by
  have hlayer (entry : String × Item) (hentry : entry ∈ Layer.ofVariables values) :=
    h.exists_setting ((Entries.mem_or_mem_of_mem_setAll hentry).resolve_left List.not_mem_nil)
  constructor
  · intro entry hentry
    obtain ⟨setting, value, hvalue, rfl⟩ := hlayer entry hentry
    exact ⟨setting, value, rfl, rfl, hvalue⟩
  · intro setting value hvalue
    have hmem := mem_filterMap_ofVariable?_iff.mpr ⟨_, _, _,
      mem_named_map_bytesOf.mp (h.all setting value hvalue), setting.keyOf?_variableName, rfl⟩
    -- another variable may stand for the same key, and then gives the same value
    have hlast : ∃ item, (setting.key, item) ∈ Layer.ofVariables values :=
      Entries.exists_mem_setAll (.inr hmem)
    obtain ⟨item, hitem⟩ := hlast
    obtain ⟨setting', value', hvalue', heq⟩ := hlayer _ hitem
    obtain ⟨hkey, rfl⟩ := Prod.mk.inj heq
    obtain rfl := Setting.key_injective hkey
    cases hvalue.symm.trans hvalue'
    exact ⟨_, hitem, rfl, rfl⟩

end TestCoverage.Settings
