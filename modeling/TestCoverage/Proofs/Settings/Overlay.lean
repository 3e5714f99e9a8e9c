/-
  TestCoverage.Proofs.Settings.Overlay

  A layer of well-typed values over the items below it, when all sections are tables: the
  settings that it gives values have them, and the others keep what they had.

  One entry of a layer is followed first.  It only ever gives a setting the chosen value,
  so that is what all entries together do, and a setting that one of them gives its value
  has it in the end.
-/
import TestCoverage.Proofs.Settings.Loading

namespace TestCoverage.Settings

/-! ## Choices -/

/-- For each setting, whether it is given a value and which one. -/
abbrev Choice := (setting : Setting) → Option setting.Value

namespace Choice

/-- Nothing is given a value. -/
def nothing : Choice :=
  fun _ => none

/-- The upper choice where it gives a value, and the lower one elsewhere. -/
def onto (upper lower : Choice) : Choice :=
  fun setting => (upper setting).or (lower setting)

/-- All settings have the values that they have anyway. -/
def fallback : Choice :=
  fun setting => some setting.fallback

end Choice

/-- The scalar that a value of the setting is written as. -/
def Setting.scalar : (setting : Setting) → setting.Value → Scalar
  | .text _, value => .text value
  | .keepGoing, value => .boolean value

/-- The setting has a value among the items. -/
def Setting.Has (setting : Setting) (value : setting.Value) (entries : Entries Item) : Prop :=
  ∃ origin, setting.item? entries = some (.scalar origin (setting.scalar value))

/-- The items that stand for sections are tables. -/
def Tabular (entries : Entries Item) : Prop :=
  ∀ setting : Setting, ∀ item ∈ entries.get? setting.sectionName,
    ∃ origin inner, item = .table origin inner

/-- Items in which every setting has a value decode to these values. -/
theorem decode_of_has {entries : Entries Item} (htabular : Tabular entries)
    {value : (setting : Setting) → setting.Value}
    (hvalue : ∀ setting : Setting, setting.Has (value setting) entries) :
    decode entries = .ok (Setting.assemble value) := by
  rw [decode_eq_ok_iff]
  constructor
  · intro setting item hitem
    obtain ⟨_, _, rfl⟩ := htabular setting item hitem
    trivial
  · intro setting
    obtain ⟨origin, hitem⟩ := hvalue setting
    rw [hitem, Setting.get_assemble]
    cases setting <;> rfl

/-! ## Steps that give chosen values only -/

/-- The settings of the upper items have what they have in the lower ones, or the chosen
    values. -/
structure Within (choice : Choice) (below above : Entries Item) : Prop where
  tabular : Tabular above
  kept_or_has : ∀ setting : Setting, setting.item? above = setting.item? below ∨
    ∃ value, choice setting = some value ∧ setting.Has value above

namespace Within

variable {choice : Choice} {below between above : Entries Item}

theorem refl (h : Tabular below) : Within choice below below :=
  ⟨h, fun _ => .inl rfl⟩

theorem trans (hlower : Within choice below between) (hupper : Within choice between above) :
    Within choice below above := by
  refine ⟨hupper.tabular, fun setting => ?_⟩
  rcases hupper.kept_or_has setting with hkept | hhas
  · rcases hlower.kept_or_has setting with hkept' | ⟨value, hvalue, origin, hitem⟩
    · exact .inl (hkept.trans hkept')
    · exact .inr ⟨value, hvalue, origin, hkept.trans hitem⟩
  · exact .inr hhas

/-- A setting keeps its chosen value. -/
theorem has (h : Within choice below above) {setting : Setting} {value : setting.Value}
    (hvalue : choice setting = some value) (hhas : setting.Has value below) :
    setting.Has value above := by
  rcases h.kept_or_has setting with hkept | ⟨value', hvalue', hhas'⟩
  · obtain ⟨origin, hitem⟩ := hhas
    exact ⟨origin, hkept.trans hitem⟩
  · cases hvalue.symm.trans hvalue'
    exact hhas'

/-- A setting that is not chosen keeps what it has. -/
theorem item?_eq (h : Within choice below above) {setting : Setting}
    (hnone : choice setting = none) : setting.item? above = setting.item? below := by
  rcases h.kept_or_has setting with hkept | ⟨value, hvalue, -⟩
  · exact hkept
  · exact absurd (hnone.symm.trans hvalue) nofun

variable {α : Type} {step : Entries Item → α → Entries Item} {steps : List α}

/-- Steps that each give chosen values only do so together. -/
theorem foldl (hsteps : ∀ a ∈ steps, ∀ entries, Tabular entries →
      Within choice entries (step entries a)) (hbelow : Tabular below) :
    Within choice below (steps.foldl step below) :=
  steps.foldlRecOn step (motive := Within choice below) (refl hbelow) fun _ hbefore a ha =>
    hbefore.trans (hsteps a ha _ hbefore.tabular)

/-- What one of the steps gives a setting, it has after all of them. -/
theorem has_foldl (hsteps : ∀ a ∈ steps, ∀ entries, Tabular entries →
      Within choice entries (step entries a)) (hbelow : Tabular below)
    {setting : Setting} {value : setting.Value} (hvalue : choice setting = some value)
    {a : α} (ha : a ∈ steps)
    (hstep : ∀ entries, Tabular entries → setting.Has value (step entries a)) :
    setting.Has value (steps.foldl step below) := by
  -- the steps before leave the sections tables, and those behind keep the value
  obtain ⟨before, after, rfl⟩ := List.append_of_mem ha
  rw [List.forall_mem_append, List.forall_mem_cons] at hsteps
  rw [List.foldl_append, List.foldl_cons]
  have hbefore := foldl hsteps.1 hbelow
  have hnow := hsteps.2.1 _ hbefore.tabular
  exact (foldl hsteps.2.2 hnow.tabular).has hvalue (hstep _ hbefore.tabular)

end Within

/-! ## One setting -/

/-- Putting its chosen value at the place of a setting. -/
theorem Setting.within_put {choice : Choice} {setting : Setting} {value : setting.Value}
    (hvalue : choice setting = some value) (origin : Option String) {entries : Entries Item}
    (htabular : Tabular entries) :
    Within choice entries (setting.put origin (setting.scalar value) entries) := by
  constructor
  · intro other item hitem
    obtain hkept | htable := section_put hitem
    · exact htabular other item hkept
    · exact htable
  · intro other
    by_cases h : other = setting
    · subst h
      exact .inr ⟨value, hvalue, origin, item?_put_self ..⟩
    · obtain hkept | ⟨⟨_, _, hlist⟩, -⟩ :=
        item?_put_of_ne h origin (setting.scalar value) entries
      · exact .inl hkept
      · obtain ⟨_, _, hitem⟩ := htabular other _ hlist
        cases hitem

theorem Setting.has_put (setting : Setting) (value : setting.Value) (origin : Option String)
    (entries : Entries Item) :
    setting.Has value (setting.put origin (setting.scalar value) entries) :=
  ⟨origin, item?_put_self ..⟩

/-! ## The table of a section -/

/-- The items with the section of a setting there, empty if it was not. -/
def Setting.touch (setting : Setting) (entries : Entries Item) : Entries Item :=
  entries.set setting.sectionName
    ((entries.get? setting.sectionName).getD (.table none []))

theorem Setting.within_touch (choice : Choice) (setting : Setting) {entries : Entries Item}
    (htabular : Tabular entries) : Within choice entries (setting.touch entries) := by
  constructor
  · intro other item hitem
    by_cases h : other.sectionName = setting.sectionName
    · rw [touch, h, Entries.get?_set_self] at hitem
      cases hitem
      rcases hsection : entries.get? setting.sectionName with _ | item
      · exact ⟨_, _, rfl⟩
      · exact htabular setting item hsection
    · rw [touch, Entries.get?_set_of_ne _ _ h] at hitem
      exact htabular other item hitem
  · intro other
    left
    by_cases h : other.sectionName = setting.sectionName
    · rw [item?, item?, touch, h, Entries.get?_set_self]
      cases entries.get? setting.sectionName <;> rfl
    · rw [item?, item?, touch, Entries.get?_set_of_ne _ _ h]

/-- A table for a section is assigned entry by entry. -/
theorem Setting.assign_table (setting : Setting) (origin : Option String)
    (inner : List (String × Item)) (entries : Entries Item) :
    Item.assign entries setting.sectionName (.table origin inner) =
      setting.touch (inner.foldl
        (fun entries (name, item) => Place.assign ⟨setting.sectionName, [.name name]⟩ item entries)
        entries) := by
  -- the first entry makes the section if need be, so the others find it there
  induction inner generalizing entries with
  | nil => rw [Item.assign, setting.lowered_sectionName, Item.merge]; rfl
  | cons entry inner ih =>
    rw [List.foldl_cons, ← ih]
    obtain ⟨name, item⟩ := entry
    simp only [Item.assign, Item.merge, setting.lowered_sectionName, Place.assign, Place.fill,
      Item.assignIn, Entries.set_set, Entries.get?_set_self, Option.getD_some]
    cases entries.get? setting.sectionName <;> rfl

/-! ## One entry -/

/-- The entry gives settings their chosen values and does nothing else: one setting under its
    key, or those of a section in a table. -/
def Chooses (choice : Choice) (key : String) : Item → Prop
  | .scalar _ scalar => ∃ (setting : Setting) (value : setting.Value),
      key = setting.key ∧ scalar = setting.scalar value ∧ choice setting = some value
  | .table _ inner => (∃ setting : Setting, key = setting.sectionName) ∧
      ∀ entry ∈ inner, ∃ (setting : Setting) (value : setting.Value) (origin : Option String),
        key = setting.sectionName ∧ entry = (setting.name, .scalar origin (setting.scalar value)) ∧
        choice setting = some value
  | .list .. => False

/-- The entry gives one setting a value. -/
def Gives (setting : Setting) (value : setting.Value) (key : String) : Item → Prop
  | .scalar _ scalar => key = setting.key ∧ scalar = setting.scalar value
  | .table _ inner => key = setting.sectionName ∧
      ∃ origin, (setting.name, .scalar origin (setting.scalar value)) ∈ inner
  | .list .. => False

/-- The steps of a section's table. -/
theorem within_inner {choice : Choice} {key : String} {inner : List (String × Item)}
    (hinner : ∀ entry ∈ inner, ∃ (setting : Setting) (value : setting.Value)
      (origin : Option String), key = setting.sectionName ∧
      entry = (setting.name, .scalar origin (setting.scalar value)) ∧
      choice setting = some value) :
    ∀ entry ∈ inner, ∀ entries, Tabular entries →
      Within choice entries (Place.assign ⟨key, [.name entry.1]⟩ entry.2 entries) := by
  intro entry hentry entries htabular
  obtain ⟨setting, value, origin, rfl, rfl, hvalue⟩ := hinner entry hentry
  exact Setting.within_put hvalue origin htabular

variable {choice : Choice} {key : String} {item : Item} {entries : Entries Item}

theorem Chooses.within (h : Chooses choice key item) (htabular : Tabular entries) :
    Within choice entries ((Place.ofKey key).assign item entries) := by
  cases item with
  | scalar origin scalar =>
    obtain ⟨setting, value, rfl, rfl, hvalue⟩ := h
    rw [setting.ofKey_key]
    exact Setting.within_put hvalue origin htabular
  | list => exact h.elim
  | table origin inner =>
    obtain ⟨⟨setting, rfl⟩, hinner⟩ := h
    rw [setting.ofKey_sectionName, Place.assign, setting.assign_table]
    have hfold := Within.foldl (within_inner hinner) htabular
    exact hfold.trans (Setting.within_touch choice setting hfold.tabular)

theorem Chooses.has (h : Chooses choice key item) (htabular : Tabular entries)
    {setting : Setting} {value : setting.Value} (hvalue : choice setting = some value)
    (hgives : Gives setting value key item) :
    setting.Has value ((Place.ofKey key).assign item entries) := by
  cases item with
  | scalar origin scalar =>
    obtain ⟨rfl, rfl⟩ := hgives
    rw [setting.ofKey_key]
    exact setting.has_put value origin entries
  | list => exact h.elim
  | table origin inner =>
    obtain ⟨-, hinner⟩ := h
    obtain ⟨rfl, origin', hmem⟩ := hgives
    rw [setting.ofKey_sectionName, Place.assign, setting.assign_table]
    have hfold := Within.foldl (within_inner hinner) htabular
    refine (Setting.within_touch choice setting hfold.tabular).has hvalue ?_
    exact Within.has_foldl (within_inner hinner) htabular hvalue hmem fun entries _ =>
      setting.has_put value origin' entries

/-! ## All entries -/

/-- The layer gives the chosen values to their settings, and does nothing else. -/
structure Layer.Says (choice : Choice) (layer : Layer) : Prop where
  only : ∀ entry ∈ layer, Chooses choice entry.1 entry.2
  all : ∀ (setting : Setting) (value : setting.Value), choice setting = some value →
    ∃ entry ∈ layer, Gives setting value entry.1 entry.2

/-- The settings of the upper items have the chosen values, and else what they have in the
    lower ones. -/
structure Overlaid (choice : Choice) (below above : Entries Item) : Prop where
  tabular : Tabular above
  has : ∀ (setting : Setting) (value : setting.Value), choice setting = some value →
    setting.Has value above
  kept : ∀ setting : Setting, choice setting = none → setting.item? above = setting.item? below

/-- A layer is put over the items below it setting by setting. -/
theorem Layer.Says.overlaid {layer : Layer} (h : layer.Says choice)
    {below : Entries Item} (hbelow : Tabular below) :
    Overlaid choice below (layer.onto below) := by
  have hsteps : ∀ entry ∈ layer, ∀ entries, Tabular entries →
      Within choice entries ((Place.ofKey entry.1).assign entry.2 entries) :=
    fun entry hentry _ htabular => (h.only entry hentry).within htabular
  have hwithin : Within choice below (layer.onto below) := Within.foldl hsteps hbelow
  refine ⟨hwithin.tabular, fun setting value hvalue => ?_, fun _ => hwithin.item?_eq⟩
  obtain ⟨entry, hentry, hgives⟩ := h.all setting value hvalue
  exact Within.has_foldl hsteps hbelow hvalue hentry fun entries htabular =>
    (h.only entry hentry).has htabular hvalue hgives

/-- One choice over another. -/
theorem Overlaid.trans {lower upper : Choice} {below between above : Entries Item}
    (hlower : Overlaid lower below between) (hupper : Overlaid upper between above) :
    Overlaid (upper.onto lower) below above := by
  refine ⟨hupper.tabular, fun setting value hvalue => ?_, fun setting hnone => ?_⟩
  · rcases hchoice : upper setting with _ | value'
    · rw [Choice.onto, hchoice, Option.none_or] at hvalue
      obtain ⟨origin, hitem⟩ := hlower.has setting value hvalue
      exact ⟨origin, (hupper.kept setting hchoice).trans hitem⟩
    · rw [Choice.onto, hchoice, Option.some_or] at hvalue
      cases hvalue
      exact hupper.has setting value hchoice
  · obtain ⟨hnone, hnone'⟩ := Option.or_eq_none_iff.mp hnone
    exact (hupper.kept setting hnone).trans (hlower.kept setting hnone')

end TestCoverage.Settings
