/-
  TestCoverage.Proofs.Settings.Foreign

  Keys of documents and names of variables that are about no section.  The place of a key
  begins with a name that the key begins with, so only a variable that names a section right
  behind the common beginning is about it.
-/
import Mathlib.Data.List.TakeWhile
import TestCoverage.Proofs.Settings.Section

namespace TestCoverage.Settings

/-! ## Keys of documents -/

namespace Place

/-- A key that is written as a name stands for this name, at the top. -/
theorem ofKey_of_isNameChar {key : String} (h : ∀ c ∈ key.toList, isNameChar c = true) :
    ofKey key = ⟨Text.lowered key, []⟩ := by
  rw [ofKey, parse?, readName?, List.takeWhile_eq_self_iff.mpr h, List.dropWhile_eq_nil_iff.mpr h]
  by_cases hempty : key.toList.isEmpty
  · simp [hempty]
  · simp [hempty, readSteps?]

theorem isNameChar_of_isBare {c : Char} (h : Toml.isBare c = true) : isNameChar c = true := by
  simp only [Toml.isBare, isNameChar, Bool.or_eq_true] at h ⊢
  tauto

theorem isNameChar_of_isAlpha {c : Char} (h : c.isAlpha = true) : isNameChar c = true := by
  simp [isNameChar, Char.isAlphanum, h]

/-- The name of a section in any letter case stands for the section. -/
theorem ofKey_of_lowered_eq {key name : String} (hname : name ∈ sectionNames)
    (h : Text.lowered key = name) : ofKey key = ⟨name, []⟩ := by
  have hcase : Text.lowerCase key.toList = name.toList := by
    rw [← h, Text.lowered, String.toList_ofList]
  rw [← h]
  exact ofKey_of_isNameChar fun c hc => isNameChar_of_isAlpha
    (Text.isAlpha_of_lowerCase_eq (isPlainLetter_of_mem_sectionNames name hname) hcase c hc)

/-- A key about a section begins with the name of the section, if it is in lower case. -/
theorem isPrefix_of_first_ofKey {key name : String} (hcapital : Text.NoCapital key.toList)
    (hname : name ∈ sectionNames) (h : (ofKey key).first = name) :
    name.toList <+: key.toList := by
  obtain ⟨start, hstart, hfirst⟩ := exists_first_ofKey key
  have hcapital' : Text.NoCapital start := fun c hc => hcapital c (hstart.subset hc)
  have hlower : Text.lowerCase start = name.toList := by
    rw [← h, hfirst, Text.lowered, String.toList_ofList, String.toList_ofList]
  rwa [← Text.eq_of_lowerCase_eq hcapital' (isPlainLetter_of_mem_sectionNames name hname) hlower]

end Place

/-! ## Names of variables -/

namespace Layer

/-- Points for underscores leave what is before the first point. -/
theorem isPrefix_of_isPrefix_dotted {word text : List Char} (hword : word.all Text.isPlainLetter)
    (h : word <+: dotted text) : word <+: text := by
  fun_induction dotted text generalizing word with
  | case1 rest =>
    cases word with
    | nil => exact List.nil_prefix
    | cons letter word =>
      rw [List.all_cons, Bool.and_eq_true] at hword
      obtain ⟨rfl, -⟩ := List.cons_prefix_cons.mp h
      exact absurd hword.1 (by decide)
  | case2 c rest _ ih =>
    cases word with
    | nil => exact List.nil_prefix
    | cons letter word =>
      rw [List.all_cons, Bool.and_eq_true] at hword
      obtain ⟨rfl, hrest⟩ := List.cons_prefix_cons.mp h
      exact List.cons_prefix_cons.mpr ⟨rfl, ih hword.2 hrest⟩
  | case3 => exact h

theorem noCapital_dotted {text : List Char} (h : Text.NoCapital text) :
    Text.NoCapital (dotted text) := by
  fun_induction dotted text with
  | case1 rest ih =>
    refine List.forall_mem_cons.mpr ⟨by decide, ih fun c hc => h c ?_⟩
    exact List.mem_cons_of_mem _ (List.mem_cons_of_mem _ hc)
  | case2 c rest _ ih =>
    exact List.forall_mem_cons.mpr ⟨h c List.mem_cons_self,
      ih fun c hc => h c (List.mem_cons_of_mem _ hc)⟩
  | case3 => exact h

/-- A variable that is about a section begins with the common beginning and its name. -/
theorem isPrefix_of_keyOf? {name key sectionName : String} (hkey : keyOf? name = some key)
    (hsection : sectionName ∈ sectionNames) (h : (Place.ofKey key).first = sectionName) :
    variablePrefix ++ sectionName.toList <+: Text.lowerCase name.toList := by
  rw [keyOf?] at hkey
  split at hkey
  · next hprefix =>
    cases hkey
    obtain ⟨rest, hrest⟩ := List.isPrefixOf_iff_prefix.mp hprefix
    have hlower := Text.noCapital_lowerCase name.toList
    rw [← hrest] at h hlower ⊢
    rw [List.drop_left] at h
    have hdotted : Text.NoCapital (dotted rest) :=
      noCapital_dotted (List.forall_mem_append.mp hlower).2
    have hstart := Place.isPrefix_of_first_ofKey (by rwa [String.toList_ofList]) hsection h
    rw [String.toList_ofList] at hstart
    rw [List.prefix_append_right_inj]
    exact isPrefix_of_isPrefix_dotted (isPlainLetter_of_mem_sectionNames _ hsection) hstart
  · cases hkey

end Layer
end TestCoverage.Settings
