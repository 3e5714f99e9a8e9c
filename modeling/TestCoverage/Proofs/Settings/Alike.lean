/-
  TestCoverage.Proofs.Settings.Alike

  Two items for one section that cannot be told apart by its settings, and what keeps them so:
  every entry that comes to both, and more names in a table that comes to the second one.

  More names make a table of what was none.  The two are still alike then, as the table has no
  settings, unless they take the place of a list: whether this may happen is part of the
  relation.
-/
import TestCoverage.Proofs.Settings.Document
import TestCoverage.Proofs.Settings.Section

namespace TestCoverage.Settings

/-! ## The settings of a section -/

/-- The settings of a section have the same in both. -/
def SameSettings (name : String) (a b : Entries Item) : Prop :=
  ∀ setting : Setting, setting.sectionName = name → a.get? setting.name = b.get? setting.name

/-- What a name has after an entry depends on what it had, and on no other name. -/
theorem Place.get?_assign_congr {a b : Entries Item} {asked : String}
    (h : a.get? asked = b.get? asked) (place : Place) (value : Item) :
    (place.assign value a).get? asked = (place.assign value b).get? asked := by
  obtain ⟨first, _ | ⟨step, steps⟩⟩ := place
  · simp only [assign, Item.get?_assign, h]
  · simp only [assign]
    by_cases hfirst : asked = first
    · subst hfirst
      rw [Entries.get?_set_self, Entries.get?_set_self, h]
    · rw [Entries.get?_set_of_ne _ _ hfirst, Entries.get?_set_of_ne _ _ hfirst, h]

/-- A step to a name puts the value at the place that the name and the steps behind it are. -/
theorem Place.fill_name (value : Item) (name : String) (steps : List Step) (target : Item) :
    fill value (.name name :: steps) target =
      target.withEntries (assign ⟨name, steps⟩ value target.entries) := by
  cases steps <;> rfl

/-- The names of a table are given to a name one after the other, if they are its spellings. -/
theorem Item.get?_foldl_assign (entries : Entries Item) (new : List (String × Item))
    (asked : String) :
    (new.foldl (fun entries entry => assign entries entry.1 entry.2) entries).get? asked =
      (new.filter fun entry => Text.lowered entry.1 = asked).foldl
        (fun old entry => some (assigned old entry.2)) (entries.get? asked) := by
  induction new generalizing entries with
  | nil => rfl
  | cons entry new ih =>
    rw [List.foldl_cons, ih, get?_assign, List.filter_cons]
    by_cases hname : Text.lowered entry.1 = asked
    · simp [hname]
    · simp [hname]

/-- The key is a setting of the section, in any letter case. -/
def isSettingKey (name key : String) : Bool :=
  (toolSettings ++ coverageSettings).any fun setting =>
    setting.sectionName = name ∧ Text.lowered key = setting.name

theorem isSettingKey_iff {name key : String} : isSettingKey name key = true ↔
    ∃ setting : Setting, setting.sectionName = name ∧ Text.lowered key = setting.name := by
  simp only [isSettingKey, List.any_eq_true, decide_eq_true_eq, Setting.mem_settings, true_and]

/-- The second table has the names of the first, and the same entries for the settings of the
    section in the same order. -/
structure AddsInOrder (name : String) (inner inner' : List (String × Item)) : Prop where
  kept : ∀ entry ∈ inner, entry.1 ∈ inner'.map Prod.fst
  settings_eq : inner'.filter (fun entry => isSettingKey name entry.1) =
    inner.filter fun entry => isSettingKey name entry.1

namespace AddsInOrder

variable {name : String} {inner inner' : List (String × Item)}

theorem refl (name : String) (inner : List (String × Item)) : AddsInOrder name inner inner where
  kept _ hentry := List.mem_map_of_mem hentry
  settings_eq := rfl

theorem ne_nil (h : AddsInOrder name inner inner') (hinner : inner ≠ []) : inner' ≠ [] := by
  obtain ⟨entry, rest, rfl⟩ := List.exists_cons_of_ne_nil hinner
  rintro rfl
  exact absurd (h.kept entry List.mem_cons_self) List.not_mem_nil

/-- The spellings of one setting. -/
theorem setting_eq (h : AddsInOrder name inner inner') {setting : Setting}
    (hsection : setting.sectionName = name) :
    inner'.filter (fun entry => Text.lowered entry.1 = setting.name) =
      inner.filter fun entry => Text.lowered entry.1 = setting.name := by
  have hfilter (entries : List (String × Item)) :
      (entries.filter fun entry => Text.lowered entry.1 = setting.name) =
        (entries.filter fun entry => isSettingKey name entry.1).filter
          fun entry => Text.lowered entry.1 = setting.name := by
    rw [List.filter_filter]
    refine List.filter_congr fun entry _ => ?_
    by_cases hname : Text.lowered entry.1 = setting.name
    · simp [hname, isSettingKey_iff.mpr ⟨setting, hsection, hname⟩]
    · simp [hname]
  rw [hfilter inner', hfilter inner, h.settings_eq]

end AddsInOrder

namespace SameSettings

variable {name : String} {a b : Item}

theorem assign (place : Place) (value : Item)
    (h : SameSettings name a.entries b.entries) :
    SameSettings name (place.assign value a.entries) (place.assign value b.entries) :=
  fun setting hsection => Place.get?_assign_congr (h setting hsection) place value

/-- Names that are no settings do not show. -/
theorem merge {inner inner' : List (String × Item)} (hadds : AddsInOrder name inner inner')
    (h : SameSettings name a.entries b.entries) :
    SameSettings name (a.merge inner).entries (b.merge inner').entries := by
  intro setting hsection
  rw [Item.entries_merge, Item.entries_merge, Item.get?_foldl_assign, Item.get?_foldl_assign,
    hadds.setting_eq hsection, h setting hsection]

end SameSettings

/-! ## Items that are alike -/

/-- The items have the same settings.  They are the same, or the second is a table and the first
    no list, or the first is a list, which is allowed only if it may be displaced. -/
structure Alike (mayDisplace : Prop) (name : String) (a b : Item) : Prop where
  settings : SameSettings name a.entries b.entries
  shape : a = b ∨ (¬ a.IsList ∧ b.IsTable) ∨ (mayDisplace ∧ a.IsList)

namespace Alike

variable {mayDisplace : Prop} {name : String} {a b : Item}

theorem refl (mayDisplace : Prop) (name : String) (item : Item) :
    Alike mayDisplace name item item :=
  ⟨fun _ _ => rfl, .inl rfl⟩

/-- Only for lists does it count whether they may be displaced. -/
theorem imp {mayDisplace' : Prop} (himp : a.IsList → mayDisplace → mayDisplace')
    (h : Alike mayDisplace name a b) : Alike mayDisplace' name a b :=
  ⟨h.settings, h.shape.imp_right (Or.imp_right fun ⟨hmay, hlist⟩ => ⟨himp hlist hmay, hlist⟩)⟩

/-- Entries that come into both. -/
theorem withEntries (a b : Item) {entries entries' : Entries Item}
    (h : SameSettings name entries entries') :
    Alike mayDisplace name (a.withEntries entries) (b.withEntries entries') := by
  constructor
  · simpa only [Item.entries_withEntries] using h
  · exact .inr (.inl ⟨Item.not_isList_of_isTable (a.isTable_withEntries entries),
      b.isTable_withEntries entries'⟩)

/-- A table that comes to both, to the second with more names. -/
theorem merge {inner inner' : List (String × Item)} (hadds : AddsInOrder name inner inner')
    (hopen : inner = [] → inner' = [] ∨ mayDisplace) (h : Alike mayDisplace name a b) :
    Alike mayDisplace name (a.merge inner) (b.merge inner') := by
  refine ⟨h.settings.merge hadds, ?_⟩
  by_cases hinner : inner = []
  · -- the first stays what it is
    subst hinner
    rw [Item.merge]
    rcases h.shape with rfl | ⟨ha, hb⟩ | hdisplaced
    · by_cases hinner' : inner' = []
      · rw [hinner', Item.merge]
        exact .inl rfl
      · by_cases ha : a.IsList
        · exact .inr (.inr ⟨(hopen rfl).resolve_left hinner', ha⟩)
        · exact .inr (.inl ⟨ha, Item.isTable_merge (.inl hinner')⟩)
    · exact .inr (.inl ⟨ha, Item.isTable_merge (.inr hb)⟩)
    · exact .inr (.inr hdisplaced)
  · exact .inr (.inl ⟨Item.not_isList_of_isTable (Item.isTable_merge (.inl hinner)),
      Item.isTable_merge (.inl (hadds.ne_nil hinner))⟩)

/-- An index that comes to both. -/
theorem fill_index (index : Nat) (steps : List Step) (value : Item)
    (h : Alike mayDisplace name a b) :
    Alike mayDisplace name (Place.fill value (.index index :: steps) a)
      (Place.fill value (.index index :: steps) b) := by
  rcases h with ⟨-, rfl | ⟨ha, _, _, rfl⟩ | ⟨hmay, -⟩⟩
  · exact .refl ..
  · -- neither has elements, so both become the same list
    cases a with
    | scalar | table => exact .refl ..
    | list => exact absurd ⟨_, _, rfl⟩ ha
  · have hlist (item : Item) : ∃ origin elements,
        Place.fill value (.index index :: steps) item = .list origin elements := by
      cases item <;> exact ⟨_, _, rfl⟩
    obtain ⟨_, _, ha⟩ := hlist a
    obtain ⟨_, _, hb⟩ := hlist b
    rw [ha, hb]
    exact ⟨fun _ _ => rfl, .inr (.inr ⟨hmay, _, _, rfl⟩)⟩

/-- An entry about the section that comes to both. -/
theorem update (steps : List Step) (value : Item) (h : Alike mayDisplace name a b) :
    Alike mayDisplace name (Place.update steps value a) (Place.update steps value b) := by
  match steps with
  | [] =>
    cases value with
    | scalar | list => exact .refl ..
    | table origin inner => exact h.merge (.refl ..) .inl
  | .name first :: steps =>
    simp only [Place.update, Place.fill_name]
    exact withEntries a b (h.settings.assign ⟨first, steps⟩ value)
  | .index index :: steps => exact h.fill_index index steps value

end Alike
end TestCoverage.Settings
