/-
  TestCoverage.Proofs.Entries

  Values under names: giving a name two values, names that are new, and many names set in turn.
-/
import Mathlib.Logic.Function.Basic
import TestCoverage.Entries

namespace TestCoverage.Entries

variable {α ν : Type} [DecidableEq ν]

/-- The second of two values under one name counts. -/
theorem set_set (entries : Entries α ν) (name : ν) (first second : α) :
    (entries.set name first).set name second = entries.set name second := by
  induction entries with
  | nil => simp [set]
  | cons entry rest ih =>
    obtain ⟨other, old⟩ := entry
    by_cases h : other = name
    · simp [set, h]
    · simp [set, h, ih]

/-- A new name has no value. -/
theorem get?_of_notMem {entries : Entries α ν} {name : ν}
    (h : name ∉ entries.map Prod.fst) : entries.get? name = none := by
  induction entries with
  | nil => rfl
  | cons entry rest ih =>
    simp only [List.map_cons, List.mem_cons, not_or] at h
    rw [get?, if_neg (Ne.symm h.1), ih h.2]

/-- Names that are spelled in another way, no two of them alike, have the values that they had. -/
theorem get?_map_name {μ : Type} [DecidableEq μ] {spell : ν → μ} (h : Function.Injective spell)
    (entries : Entries α ν) (name : ν) :
    Entries.get? (entries.map fun entry => (spell entry.1, entry.2)) (spell name) =
      entries.get? name := by
  induction entries with
  | nil => rfl
  | cons entry rest ih =>
    obtain ⟨other, value⟩ := entry
    simp only [List.map_cons, get?, h.eq_iff, ih]

/-- A new name comes last. -/
theorem set_of_notMem {entries : Entries α ν} {name : ν}
    (h : name ∉ entries.map Prod.fst) (value : α) :
    entries.set name value = entries ++ [(name, value)] := by
  induction entries with
  | nil => rfl
  | cons entry rest ih =>
    simp only [List.map_cons, List.mem_cons, not_or] at h
    rw [set, if_neg (Ne.symm h.1), ih h.2, List.cons_append]

theorem mem_set_self (entries : Entries α ν) (name : ν) (value : α) :
    (name, value) ∈ entries.set name value := by
  induction entries with
  | nil => exact List.mem_cons_self
  | cons entry rest ih =>
    rw [set]
    split
    · exact List.mem_cons_self
    · exact List.mem_cons_of_mem _ ih

theorem mem_set_of_ne {entries : Entries α ν} {entry : ν × α} {name : ν} (value : α)
    (hname : entry.1 ≠ name) : entry ∈ entries.set name value ↔ entry ∈ entries := by
  have hnew : entry ≠ (name, value) := fun h => hname (congrArg Prod.fst h)
  induction entries with
  | nil => simp [set, hnew]
  | cons first rest ih =>
    rw [set]
    split
    · next hfirst =>
      have hold : entry ≠ first := fun h => hname ((congrArg Prod.fst h).trans hfirst)
      simp only [List.mem_cons, hnew, hold, false_or]
    · simp only [List.mem_cons, ih]

theorem mem_or_eq_of_mem_set {entries : Entries α ν} {entry : ν × α} {name : ν} {value : α}
    (h : entry ∈ entries.set name value) : entry ∈ entries ∨ entry = (name, value) := by
  induction entries with
  | nil => exact .inr (List.mem_singleton.mp h)
  | cons first rest ih =>
    rw [set] at h
    split at h
    · exact (List.mem_cons.mp h).symm.imp_left (List.mem_cons_of_mem _)
    · rcases List.mem_cons.mp h with rfl | hrest
      · exact .inl List.mem_cons_self
      · exact (ih hrest).imp_left (List.mem_cons_of_mem _)

/-! ## Many names -/

theorem setAll_cons (entries : Entries α ν) (name : ν) (value : α) (news : Entries α ν) :
    entries.setAll ((name, value) :: news) = (entries.set name value).setAll news := rfl

theorem filter_set (kind : ν → Bool) (entries : Entries α ν) (name : ν) (value : α) :
    (entries.set name value).filter (fun entry => kind entry.1) =
      if kind name then set (entries.filter fun entry => kind entry.1) name value
      else entries.filter fun entry => kind entry.1 := by
  induction entries with
  | nil => cases hkind : kind name <;> simp [set, hkind]
  | cons entry rest ih =>
    obtain ⟨other, old⟩ := entry
    by_cases hname : other = name
    · subst hname
      cases hkind : kind other <;> simp [set, hkind]
    · cases hkind : kind name <;> cases hother : kind other <;>
        simp [set, hname, hkind, hother, ih]

/-- Names of one kind are set among those of the kind. -/
theorem filter_setAll (kind : ν → Bool) (entries news : Entries α ν) :
    (entries.setAll news).filter (fun entry => kind entry.1) =
      setAll (entries.filter fun entry => kind entry.1)
        (news.filter fun entry => kind entry.1) := by
  induction news generalizing entries with
  | nil => rfl
  | cons new news ih =>
    obtain ⟨name, value⟩ := new
    rw [setAll_cons, ih, filter_set, List.filter_cons]
    cases kind name <;> rfl

/-- Nothing but what was there and what is set is there afterwards. -/
theorem mem_or_mem_of_mem_setAll {entries news : Entries α ν} {entry : ν × α}
    (h : entry ∈ entries.setAll news) : entry ∈ entries ∨ entry ∈ news := by
  induction news generalizing entries with
  | nil => exact .inl h
  | cons new news ih =>
    obtain ⟨name, value⟩ := new
    rcases ih h with hset | hnews
    · rcases mem_or_eq_of_mem_set hset with hold | rfl
      · exact .inl hold
      · exact .inr List.mem_cons_self
    · exact .inr (List.mem_cons_of_mem _ hnews)

/-- Every name that is set, or was there, has a value afterwards. -/
theorem exists_mem_setAll {entries news : Entries α ν} {entry : ν × α}
    (h : entry ∈ entries ∨ entry ∈ news) : ∃ value, (entry.1, value) ∈ entries.setAll news := by
  induction news generalizing entries entry with
  | nil => exact ⟨entry.2, h.resolve_right List.not_mem_nil⟩
  | cons new news ih =>
    obtain ⟨name, value⟩ := new
    rw [setAll_cons]
    by_cases hname : entry.1 = name
    · have hset := ih (.inl (mem_set_self entries name value))
      rwa [hname]
    · rcases h with hold | hnew
      · exact ih (.inl ((mem_set_of_ne value hname).mpr hold))
      · rcases List.mem_cons.mp hnew with rfl | hnews
        · exact absurd rfl hname
        · exact ih (.inr hnews)

/-- When no name is set twice, the value that is set last is the one that is found first. -/
theorem get?_setAll {news : Entries α ν} (h : (news.map Prod.fst).Nodup) (entries : Entries α ν)
    (name : ν) :
    (entries.setAll news).get? name = (news.get? name).or (entries.get? name) := by
  induction news generalizing entries with
  | nil => rfl
  | cons new news ih =>
    obtain ⟨other, value⟩ := new
    rw [List.map_cons, List.nodup_cons] at h
    rw [setAll_cons, ih h.2]
    by_cases hname : other = name
    · subst hname
      rw [get?_of_notMem h.1, get?_set_self, get?, if_pos rfl, Option.none_or, Option.some_or]
    · rw [get?_set_of_ne _ _ (Ne.symm hname), get?, if_neg hname]

end TestCoverage.Entries
