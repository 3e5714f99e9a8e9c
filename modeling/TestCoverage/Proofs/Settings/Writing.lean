/-
  TestCoverage.Proofs.Settings.Writing

  What one scalar does to the items when it is put at the place of a setting, by a variable
  or by the table of a document: the setting has it, and the other settings stay as they
  are, unless they stood in a list, which gives way to a table.
-/
import TestCoverage.Proofs.Entries
import TestCoverage.Proofs.Settings.Decoding

namespace TestCoverage.Settings

/-! ## Tables -/

@[simp] theorem Item.entries_withEntries (item : Item) (entries : Entries Item) :
    (item.withEntries entries).entries = entries := by
  cases item <;> rfl

@[simp] theorem Setting.itemIn?_withEntries (setting : Setting) (item : Item)
    (entries : Entries Item) :
    setting.itemIn? (item.withEntries entries) = entries.get? setting.name := by
  cases item <;> rfl

namespace Setting

/-! ## Putting a scalar -/

/-- The items with a scalar at the place of the setting. -/
def put (setting : Setting) (origin : Option String) (scalar : Scalar)
    (entries : Entries Item) : Entries Item :=
  setting.place.assign (.scalar origin scalar) entries

/-- The item that stands for the setting's section, or a place to make one. -/
def sectionItem (setting : Setting) (entries : Entries Item) : Item :=
  (entries.get? setting.sectionName).getD .blank

theorem put_eq (setting : Setting) (origin : Option String) (scalar : Scalar)
    (entries : Entries Item) :
    setting.put origin scalar entries = entries.set setting.sectionName
      ((setting.sectionItem entries).withEntries
        ((setting.sectionItem entries).entries.set setting.name (.scalar origin scalar))) := by
  simp only [put, place, Place.assign, Place.fill, Item.assignIn, Item.assign,
    setting.lowered_name, sectionItem]

/-- The setting has what was put. -/
theorem item?_put_self (setting : Setting) (origin : Option String) (scalar : Scalar)
    (entries : Entries Item) :
    setting.item? (setting.put origin scalar entries) = some (.scalar origin scalar) := by
  simp [item?, put_eq, Entries.get?_set_self]

/-- The other settings have what they had, unless their section was a list: then they have
    nothing. -/
theorem item?_put_of_ne {setting other : Setting} (h : other ≠ setting)
    (origin : Option String) (scalar : Scalar) (entries : Entries Item) :
    other.item? (setting.put origin scalar entries) = other.item? entries ∨
      (∃ origin elements, entries.get? other.sectionName = some (.list origin elements)) ∧
        other.item? (setting.put origin scalar entries) = none := by
  by_cases hsection : other.sectionName = setting.sectionName
  · have hname : other.name ≠ setting.name := fun hname => h (name_injective hname)
    have hput : other.item? (setting.put origin scalar entries) =
        (setting.sectionItem entries).entries.get? other.name := by
      simp only [item?, put_eq, hsection, Entries.get?_set_self, Option.bind_some,
        itemIn?_withEntries, Entries.get?_set_of_ne _ _ hname]
    rw [hput, item?, sectionItem, hsection]
    rcases entries.get? setting.sectionName with _ | ⟨_, _⟩ | ⟨origin, elements⟩ | ⟨_, _⟩
    · exact .inl rfl
    · exact .inl rfl
    · exact .inr ⟨⟨origin, elements, rfl⟩, rfl⟩
    · exact .inl rfl
  · left
    rw [item?, item?, put_eq, Entries.get?_set_of_ne _ _ hsection]

/-- The sections are those that were there, or the table that was put. -/
theorem section_put {setting other : Setting} {origin : Option String} {scalar : Scalar}
    {entries : Entries Item} {item : Item}
    (h : (setting.put origin scalar entries).get? other.sectionName = some item) :
    entries.get? other.sectionName = some item ∨
      ∃ origin inner, item = .table origin inner := by
  rw [put_eq] at h
  by_cases hsection : other.sectionName = setting.sectionName
  · rw [hsection, Entries.get?_set_self] at h
    right
    cases h
    cases setting.sectionItem entries <;> exact ⟨_, _, rfl⟩
  · rw [Entries.get?_set_of_ne _ _ hsection] at h
    exact .inl h

/-- Items that can be decoded still can after a scalar that the setting takes is put there,
    and the setting has the scalar's value. -/
theorem exists_decode_put {setting : Setting} {origin : Option String} {scalar : Scalar}
    {entries : Entries Item} {before : Settings} {value : setting.Value}
    (hbefore : Settings.decode entries = .ok before)
    (hvalue : setting.decode (.scalar origin scalar) = .ok value) :
    ∃ settings, Settings.decode (setting.put origin scalar entries) = .ok settings ∧
      setting.get settings = value := by
  obtain ⟨hsections, hsettings⟩ := decode_eq_ok_iff.mp hbefore
  have hput : setting.decode? (setting.item? (setting.put origin scalar entries)) =
      .ok value := by
    rw [item?_put_self]
    exact hvalue
  obtain ⟨settings, hdecode⟩ : ∃ settings,
      Settings.decode (setting.put origin scalar entries) = .ok settings := by
    apply exists_decode_eq_ok
    · intro other item hitem
      obtain hkept | ⟨_, _, rfl⟩ := section_put hitem
      · exact hsections other item hkept
      · trivial
    · intro other
      by_cases h : other = setting
      · subst h
        exact ⟨value, hput⟩
      -- a setting that stood in a list falls back, and that can be decoded too
      · obtain hkept | ⟨-, hnone⟩ := item?_put_of_ne h origin scalar entries
        · rw [hkept]
          exact ⟨_, hsettings other⟩
        · rw [hnone]
          exact ⟨_, rfl⟩
  have hget := (decode_eq_ok_iff.mp hdecode).2 setting
  exact ⟨settings, hdecode, Except.ok.inj (hget.symm.trans hput)⟩

end Setting
end TestCoverage.Settings
