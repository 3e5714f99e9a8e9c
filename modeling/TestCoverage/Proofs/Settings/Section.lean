/-
  TestCoverage.Proofs.Settings.Section

  What a layer does to one section.  Only the entries that are about the section touch it, in
  their order, and each of them makes of it what its steps and its value say.
-/
import TestCoverage.Proofs.Settings.Loading
import TestCoverage.Proofs.Text.LowerCase

namespace TestCoverage.Settings

/-- The names of the sections. -/
def sectionNames : List String :=
  ["tools", "coverage"]

theorem Setting.sectionName_mem (setting : Setting) : setting.sectionName ∈ sectionNames := by
  rcases setting with (_ | _ | _ | _ | _ | _) | _ <;> decide

theorem exists_setting_of_mem_sectionNames :
    ∀ name ∈ sectionNames, ∃ setting : Setting, setting.sectionName = name :=
  List.forall_mem_cons.mpr ⟨⟨.text .cargo, rfl⟩, List.forall_mem_singleton.mpr ⟨.keepGoing, rfl⟩⟩

theorem isPlainLetter_of_mem_sectionNames :
    ∀ name ∈ sectionNames, name.toList.all Text.isPlainLetter := by
  decide

/-- The names of sections are in lower case. -/
theorem lowered_of_mem_sectionNames : ∀ name ∈ sectionNames, Text.lowered name = name := by
  decide +kernel

/-! ## Items under a name -/

namespace Item

/-- The name has what the value makes of what it had: a table is merged into it, and anything
    else takes its place. -/
def assigned (old : Option Item) : Item → Item
  | table _ new => merge (old.getD (.table none [])) new
  | item => item

/-- Giving a name a value touches no other name. -/
theorem get?_assign (entries : Entries Item) (name asked : String) (item : Item) :
    (assign entries name item).get? asked =
      if Text.lowered name = asked then some (assigned (entries.get? asked) item)
      else entries.get? asked := by
  have hset (value : Item) : (Entries.set entries (Text.lowered name) value).get? asked =
      if Text.lowered name = asked then some value else entries.get? asked := by
    split
    · next h =>
      subst h
      exact Entries.get?_set_self ..
    · next h => exact Entries.get?_set_of_ne _ _ (Ne.symm h)
  cases item with
  | scalar => simp only [assign, hset, assigned]
  | list => simp only [assign, hset, assigned]
  | table origin new =>
    simp only [assign, hset, assigned]
    split
    · next h => rw [h]
    · rfl

/-- Merging gives the names their values one after the other. -/
theorem entries_merge (target : Item) (new : List (String × Item)) :
    (merge target new).entries =
      new.foldl (fun entries entry => assign entries entry.1 entry.2) target.entries := by
  induction new generalizing target with
  | nil => rw [merge]; rfl
  | cons entry new ih =>
    rw [merge, ih, entries_withEntries]
    rfl

/-- The item is a table. -/
def IsTable (item : Item) : Prop :=
  ∃ origin entries, item = table origin entries

/-- The item is a list. -/
def IsList (item : Item) : Prop :=
  ∃ origin elements, item = list origin elements

instance : (item : Item) → Decidable item.IsList
  | list .. => isTrue ⟨_, _, rfl⟩
  | scalar .. => isFalse nofun
  | table .. => isFalse nofun

theorem not_isList_of_isTable {item : Item} (h : item.IsTable) : ¬ item.IsList := by
  obtain ⟨_, _, rfl⟩ := h
  exact nofun

/-- What is given entries becomes a table. -/
theorem isTable_withEntries (item : Item) (entries : Entries Item) :
    (item.withEntries entries).IsTable := by
  cases item <;> exact ⟨_, _, rfl⟩

/-- Merging leaves a table, unless there is nothing to merge into something else. -/
theorem isTable_merge {target : Item} {new : List (String × Item)}
    (h : new ≠ [] ∨ target.IsTable) : (merge target new).IsTable := by
  induction new generalizing target with
  | nil =>
    rw [merge]
    exact h.resolve_left (· rfl)
  | cons entry new ih =>
    rw [merge]
    exact ih (.inr (isTable_withEntries ..))

end Item

/-! ## Places in a section -/

namespace Place

/-- What a value at the end of the steps makes of an item. -/
def update (steps : List Step) (value old : Item) : Item :=
  match steps with
  | [] => Item.assigned (some old) value
  | step :: steps => fill value (step :: steps) old

/-- The name of a key is what the key begins with, in lower case. -/
theorem exists_first_ofKey (key : String) : ∃ start, start <+: key.toList ∧
    (ofKey key).first = Text.lowered (String.ofList start) := by
  rw [ofKey]
  cases hparse : parse? key.toList with
  | none => exact ⟨key.toList, List.prefix_rfl, by rw [String.ofList_toList]; rfl⟩
  | some place =>
    simp only [parse?, bind, Option.bind_eq_some_iff, pure, Option.some.injEq] at hparse
    obtain ⟨⟨first, rest⟩, hname, steps, -, rfl⟩ := hparse
    simp only [readName?, Option.ite_none_left_eq_some, Option.some.injEq, Prod.mk.injEq] at hname
    obtain ⟨-, rfl, -⟩ := hname
    exact ⟨_, List.takeWhile_prefix _, rfl⟩

variable {name : String} {key : String} {entries : Entries Item} {old : Item}

/-- An entry about the section updates it. -/
theorem get?_assign_of_first_eq (hname : name ∈ sectionNames) (hkey : (ofKey key).first = name)
    (hold : entries.get? name = some old) (value : Item) :
    ((ofKey key).assign value entries).get? name =
      some (update (ofKey key).steps value old) := by
  cases hsteps : (ofKey key).steps with
  | nil =>
    simp only [assign, update, hsteps, hkey]
    rw [Item.get?_assign, if_pos (lowered_of_mem_sectionNames name hname), hold]
  | cons step steps =>
    simp only [assign, update, hsteps, hkey]
    rw [hold, Option.getD_some, Entries.get?_set_self]

/-- Any other entry leaves it as it is. -/
theorem get?_assign_of_first_ne (hname : name ∈ sectionNames) (hkey : (ofKey key).first ≠ name)
    (value : Item) :
    ((ofKey key).assign value entries).get? name = entries.get? name := by
  cases hsteps : (ofKey key).steps with
  | nil =>
    obtain ⟨text, -, htext⟩ := exists_first_ofKey key
    simp only [assign, hsteps]
    rw [Item.get?_assign, if_neg]
    intro hlowered
    rw [htext] at hkey hlowered
    exact hkey (Text.lowered_eq_of_lowered_lowered (isPlainLetter_of_mem_sectionNames name hname)
      hlowered)
  | cons step steps =>
    simp only [assign, hsteps]
    exact Entries.get?_set_of_ne _ _ hkey.symm

end Place

/-! ## Layers -/

/-- The entries that are about a section, in order. -/
def about {α : Type} (name : String) (entries : List (String × α)) : List (String × α) :=
  entries.filter fun entry => (Place.ofKey entry.1).first = name

/-- A section after an entry about it. -/
def afterEntry (old : Item) (entry : String × Item) : Item :=
  Place.update (Place.ofKey entry.1).steps entry.2 old

/-- A layer does to a section what its entries about the section do. -/
theorem get?_onto {name : String} (hname : name ∈ sectionNames) (layer : Layer)
    {below : Entries Item} {old : Item} (hold : below.get? name = some old) :
    (layer.onto below).get? name = some ((about name layer).foldl afterEntry old) := by
  induction layer generalizing below old with
  | nil => exact hold
  | cons entry layer ih =>
    obtain ⟨key, value⟩ := entry
    rw [Layer.onto_cons, about, List.filter_cons]
    by_cases hkey : (Place.ofKey key).first = name
    · rw [ih (Place.get?_assign_of_first_eq hname hkey hold value)]
      simp [hkey, about, afterEntry]
    · rw [ih ((Place.get?_assign_of_first_ne hname hkey value).trans hold)]
      simp [hkey, about]

end TestCoverage.Settings
