/-
  TestCoverage.Proofs.Text.Blank

  What trimming takes away, and when it leaves nothing.
-/
import Mathlib.Data.List.TakeWhile
import TestCoverage.Text.Blank

namespace TestCoverage.Text

/-- Every character is white space. -/
def AllBlank (text : List Char) : Prop :=
  ∀ c ∈ text, isBlank c = true

instance (text : List Char) : Decidable (AllBlank text) :=
  List.decidableBAll (fun c => isBlank c = true) text

theorem trimStart_eq_nil_iff (text : List Char) : trimStart text = [] ↔ AllBlank text :=
  List.dropWhile_eq_nil_iff

theorem trimEnd_eq_nil_iff (text : List Char) : trimEnd text = [] ↔ AllBlank text := by
  simp [trimEnd, AllBlank, List.dropWhile_eq_nil_iff]

/-- What is left at the front begins with a character that is not white space, so it is
    blank only if nothing is left. -/
theorem allBlank_trimStart_iff (text : List Char) :
    AllBlank (trimStart text) ↔ trimStart text = [] := by
  constructor
  · intro h
    by_contra hne
    have hfirst : isBlank ((trimStart text).head hne) = false := List.head_dropWhile_not _ hne
    rw [h _ (List.head_mem hne)] at hfirst
    exact absurd hfirst (by decide)
  · intro h
    rw [h]
    exact fun c hc => absurd hc (List.not_mem_nil)

/-- Only blank text is trimmed to nothing. -/
theorem trim_eq_nil_iff (text : List Char) : trim text = [] ↔ AllBlank text := by
  rw [trim, trimEnd_eq_nil_iff, allBlank_trimStart_iff, trimStart_eq_nil_iff]

/-! ## What is left of a text -/

theorem allBlank_nil : AllBlank [] :=
  List.forall_mem_nil _

theorem allBlank_append_iff {a b : List Char} : AllBlank (a ++ b) ↔ AllBlank a ∧ AllBlank b :=
  List.forall_mem_append

/-- The text neither begins nor ends with white space. -/
def Tight (text : List Char) : Prop :=
  (∀ c ∈ text.head?, isBlank c = false) ∧ ∀ c ∈ text.getLast?, isBlank c = false

/-- Trimming takes white space away at both ends and nothing else. -/
theorem exists_trim (text : List Char) :
    ∃ before after, AllBlank before ∧ AllBlank after ∧ text = before ++ (trim text ++ after) := by
  refine ⟨text.takeWhile isBlank, ((trimStart text).reverse.takeWhile isBlank).reverse, ?_, ?_, ?_⟩
  · exact fun c hc => List.mem_takeWhile_imp hc
  · intro c hc
    exact List.mem_takeWhile_imp (List.mem_reverse.mp hc)
  · have hend : trim text ++ ((trimStart text).reverse.takeWhile isBlank).reverse =
        trimStart text := by
      rw [trim, trimEnd, ← List.reverse_append, List.takeWhile_append_dropWhile,
        List.reverse_reverse]
    rw [hend]
    exact List.takeWhile_append_dropWhile.symm

theorem trimStart_append {before : List Char} (h : AllBlank before) (text : List Char) :
    trimStart (before ++ text) = trimStart text :=
  List.dropWhile_append_of_pos h

theorem trimEnd_append {after : List Char} (h : AllBlank after) (text : List Char) :
    trimEnd (text ++ after) = trimEnd text := by
  have hreverse : AllBlank after.reverse := fun c hc => h c (List.mem_reverse.mp hc)
  rw [trimEnd, List.reverse_append, List.dropWhile_append_of_pos hreverse, trimEnd]

theorem Tight.trimEnd_eq {text : List Char} (h : Tight text) : trimEnd text = text := by
  rcases text.eq_nil_or_concat with rfl | ⟨front, c, rfl⟩
  · rfl
  · have hc : isBlank c = false := h.2 c (by simp)
    simp [trimEnd, hc]

/-- White space is taken away only up to where a tight text begins. -/
theorem Tight.trimStart_append {text : List Char} (h : Tight text) (hne : text ≠ [])
    (rest : List Char) : trimStart (text ++ rest) = text ++ rest := by
  obtain ⟨c, others, rfl⟩ := List.exists_cons_of_ne_nil hne
  have hc : isBlank c = false := h.1 c rfl
  exact List.dropWhile_cons_of_neg (by simp [hc])

/-- A text that is tight is what is left of it between white space. -/
theorem Tight.trim_append {before text after : List Char} (h : Tight text)
    (hbefore : AllBlank before) (hafter : AllBlank after) :
    trim (before ++ (text ++ after)) = text := by
  rw [trim, Text.trimStart_append hbefore]
  by_cases hne : text = []
  · rw [hne, List.nil_append, (trimStart_eq_nil_iff after).mpr hafter]
    rfl
  · rw [h.trimStart_append hne, trimEnd_append hafter, h.trimEnd_eq]

/-- White space at the end of a text does not matter. -/
theorem trim_append_of_allBlank {after : List Char} (h : AllBlank after) (text : List Char) :
    trim (text ++ after) = trim text := by
  by_cases htext : AllBlank text
  · rw [(trim_eq_nil_iff _).mpr (allBlank_append_iff.mpr ⟨htext, h⟩),
      (trim_eq_nil_iff text).mpr htext]
  · -- What is trimmed at the front ends within the text.
    obtain ⟨c, hc, hblank⟩ : ∃ c ∈ text, isBlank c ≠ true := by
      simpa [AllBlank] using htext
    have hstart : trimStart (text ++ after) = trimStart text ++ after := by
      rw [trimStart, List.dropWhile_append, if_neg]
      · rfl
      · intro hempty
        exact hblank (List.dropWhile_eq_nil_iff.mp (List.isEmpty_iff.mp hempty) c hc)
    rw [trim, hstart, trimEnd_append h, trim]

/-- White space around a text does not matter. -/
theorem trim_pad {before after : List Char} (hbefore : AllBlank before) (hafter : AllBlank after)
    (text : List Char) : trim (before ++ (text ++ after)) = trim text := by
  rw [← List.append_assoc, trim_append_of_allBlank hafter, trim, trimStart_append hbefore, trim]

end TestCoverage.Text
