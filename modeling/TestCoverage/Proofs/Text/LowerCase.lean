/-
  TestCoverage.Proofs.Text.LowerCase

  Texts whose lower case is a plain word.  No character but the capitals of ASCII has a plain
  letter for its lower case, and lower case has no such capitals, so a text that has been put
  in lower case is the word already.
-/
import Mathlib.Tactic.Common
import TestCoverage.Text.LowerCase

namespace TestCoverage.Text

/-- A letter from `a` to `z` that nothing outside ASCII has for its lower case: the dotted
    capital I begins with `i` there, and the sign for kelvin becomes `k`. -/
def isPlainLetter (c : Char) : Bool :=
  c.isLower && c != 'i' && c != 'k'

/-- No capital of ASCII is in the text. -/
def NoCapital (text : List Char) : Prop :=
  ∀ c ∈ text, c.isUpper = false

/-! ## Characters -/

theorem lowerRuns_ranges : ∀ run ∈ lowerRuns, run.2.1 < 0x80 ∨ run = (0x212A, 0x212A, 1, 0x6B) ∨
    0x80 ≤ run.2.2.2 ∧ (run.2.2.2 + (run.2.1 - run.1) < 0xD800 ∨
      0xE000 ≤ run.2.2.2 ∧ run.2.2.2 + (run.2.1 - run.1) < 0x110000) := by
  decide +kernel

theorem toNat_ofNat_of_lt {n : Nat} (h : n < 0xD800 ∨ 0xE000 ≤ n ∧ n < 0x110000) :
    (Char.ofNat n).toNat = n := by
  have hvalid : n.isValidChar := by
    rcases h with h | ⟨h, h'⟩
    · exact .inl h
    · exact .inr ⟨by omega, h'⟩
  rw [Char.ofNat, dif_pos hvalid]
  rfl

/-- Outside ASCII, only the sign for kelvin has a lower case inside. -/
theorem lowerChar_of_large {c : Char} (h : 0x80 ≤ c.toNat) :
    lowerChar c = 'k' ∨ 0x80 ≤ (lowerChar c).toNat := by
  rw [lowerChar, if_neg (by omega)]
  dsimp only
  split
  · next low high step lower hrun =>
    have hmem := List.mem_of_find?_eq_some hrun
    have hin := List.find?_some hrun
    simp only [Bool.and_eq_true, decide_eq_true_eq] at hin
    rcases lowerRuns_ranges _ hmem with hsmall | hkelvin | ⟨hlarge, hvalid⟩
    · dsimp only at hsmall
      omega
    · simp only [Prod.mk.injEq] at hkelvin
      obtain ⟨rfl, rfl, -, rfl⟩ := hkelvin
      have hc : c.toNat - 0x212A = 0 := by omega
      left
      rw [hc]
    · right
      dsimp only at hlarge hvalid
      rw [toNat_ofNat_of_lt (by omega)]
      omega
  · exact .inr h

theorem isUpper_iff_toNat (c : Char) : c.isUpper = true ↔ 0x41 ≤ c.toNat ∧ c.toNat ≤ 0x5A := by
  have hrange : c.isUpper = decide (c.val ≥ 'A'.val ∧ c.val ≤ 'Z'.val) := rfl
  simp [hrange, UInt32.le_iff_toNat_le, ← Char.toNat_val]

theorem isLower_iff_toNat (c : Char) : c.isLower = true ↔ 0x61 ≤ c.toNat ∧ c.toNat ≤ 0x7A := by
  have hrange : c.isLower = (decide (c.val ≥ 'a'.val) && decide (c.val ≤ 'z'.val)) := rfl
  simp [hrange, UInt32.le_iff_toNat_le, ← Char.toNat_val]

theorem isDigit_iff_toNat (c : Char) : c.isDigit = true ↔ 0x30 ≤ c.toNat ∧ c.toNat ≤ 0x39 := by
  have hrange : c.isDigit = (decide (c.val ≥ '0'.val) && decide (c.val ≤ '9'.val)) := rfl
  simp [hrange, UInt32.le_iff_toNat_le, ← Char.toNat_val]

/-- A letter is no digit. -/
theorem isDigit_of_isAlpha {c : Char} (h : c.isAlpha) : c.isDigit = false := by
  have hletter : c.isUpper || c.isLower := h
  rw [Bool.or_eq_true, isUpper_iff_toNat, isLower_iff_toNat] at hletter
  rw [← Bool.not_eq_true, isDigit_iff_toNat]
  omega

/-- A small character changes only if it is a capital. -/
theorem lowerChar_of_small {c : Char} (h : c.toNat < 0x80) :
    lowerChar c = if c.isUpper then Char.ofNat (c.toNat + 0x20) else c := by
  have hall : ∀ n < 0x80, lowerChar (Char.ofNat n) =
      if (Char.ofNat n).isUpper then Char.ofNat ((Char.ofNat n).toNat + 0x20)
      else Char.ofNat n := by
    decide +kernel
  have hc := hall c.toNat h
  rwa [Char.ofNat_toNat] at hc

theorem isUpper_lowerChar (c : Char) : (lowerChar c).isUpper = false := by
  rw [← Bool.not_eq_true, isUpper_iff_toNat]
  by_cases h : c.toNat < 0x80
  · rw [lowerChar_of_small h]
    split
    · next hupper =>
      rw [isUpper_iff_toNat] at hupper
      rw [toNat_ofNat_of_lt (by omega)]
      omega
    · next hupper => rwa [isUpper_iff_toNat] at hupper
  · rcases lowerChar_of_large (Nat.le_of_not_lt h) with hk | hlarge
    · rw [hk]
      decide
    · omega

/-- A character that is no capital is the only one that becomes it. -/
theorem eq_of_isPlainLetter_lowerChar {c : Char} (hupper : c.isUpper = false)
    (h : isPlainLetter (lowerChar c) = true) : lowerChar c = c := by
  simp only [isPlainLetter, Bool.and_eq_true, bne_iff_ne, isLower_iff_toNat] at h
  by_cases hsmall : c.toNat < 0x80
  · rw [lowerChar_of_small hsmall, hupper]
    rfl
  · rcases lowerChar_of_large (Nat.le_of_not_lt hsmall) with hk | hlarge
    · exact absurd hk h.2
    · omega

/-- Only the letters of ASCII become plain letters. -/
theorem isAlpha_of_isPlainLetter_lowerChar {c : Char}
    (h : isPlainLetter (lowerChar c) = true) : c.isAlpha = true := by
  have halpha : c.isAlpha = (c.isUpper || c.isLower) := rfl
  by_cases hupper : c.isUpper = true
  · rw [halpha, hupper, Bool.true_or]
  · rw [Bool.not_eq_true] at hupper
    rw [eq_of_isPlainLetter_lowerChar hupper h, isPlainLetter, Bool.and_assoc,
      Bool.and_eq_true] at h
    rw [halpha, h.1, Bool.or_true]

/-! ## Texts -/

/-- The lower case of one character in a text. -/
def lowerPiece (before : List Char) (c : Char) (rest : List Char) : List Char :=
  if c = 'Σ' then [if isFinalSigma before rest then 'ς' else 'σ']
  else if c = 'İ' then ['i', '\u0307']
  else [lowerChar c]

theorem lowerAfter_cons (before : List Char) (c : Char) (rest : List Char) :
    lowerAfter before (c :: rest) = lowerPiece before c rest ++ lowerAfter (c :: before) rest :=
  rfl

theorem noCapital_lowerPiece (before : List Char) (c : Char) (rest : List Char) :
    NoCapital (lowerPiece before c rest) := by
  rw [lowerPiece]
  split_ifs
  · exact List.forall_mem_singleton.mpr (by decide)
  · exact List.forall_mem_singleton.mpr (by decide)
  · exact List.forall_mem_cons.mpr ⟨by decide, List.forall_mem_singleton.mpr (by decide)⟩
  · exact List.forall_mem_singleton.mpr (isUpper_lowerChar c)

/-- Lower case has no capitals. -/
theorem noCapital_lowerCase (text : List Char) : NoCapital (lowerCase text) := by
  rw [lowerCase]
  generalize [] = before
  induction text generalizing before with
  | nil => exact List.forall_mem_nil _
  | cons c rest ih =>
    rw [lowerAfter_cons]
    exact List.forall_mem_append.mpr ⟨noCapital_lowerPiece before c rest, ih _⟩

/-- A plain letter at the beginning of a lower case is the lower case of one character. -/
theorem lowerPiece_of_head? {before rest : List Char} {c letter : Char}
    (hletter : isPlainLetter letter = true)
    (h : (lowerPiece before c rest).head? = some letter) :
    lowerPiece before c rest = [letter] ∧ lowerChar c = letter := by
  rw [lowerPiece] at h ⊢
  split_ifs at h ⊢ with hsigma hfinal hdotted
  all_goals rw [List.head?_cons, Option.some.injEq] at h
  · subst h
    exact absurd hletter (by decide)
  · subst h
    exact absurd hletter (by decide)
  · subst h
    exact absurd hletter (by decide)
  · subst h
    exact ⟨rfl, rfl⟩

/-- The characters of a text become those of a plain word one by one. -/
theorem map_lowerChar_of_lowerCase_eq {text word : List Char}
    (hword : word.all isPlainLetter) (h : lowerCase text = word) : text.map lowerChar = word := by
  rw [lowerCase] at h
  generalize [] = before at h
  induction text generalizing before word with
  | nil => exact h
  | cons c rest ih =>
    rw [lowerAfter_cons] at h
    obtain ⟨first, others, hpiece⟩ : ∃ first others, lowerPiece before c rest = first :: others := by
      rw [lowerPiece]
      split_ifs <;> exact ⟨_, _, rfl⟩
    rw [hpiece, List.cons_append] at h
    subst h
    rw [List.all_cons, Bool.and_eq_true] at hword
    have hhead : (lowerPiece before c rest).head? = some first := by rw [hpiece, List.head?_cons]
    obtain ⟨hone, rfl⟩ := lowerPiece_of_head? hword.1 hhead
    obtain rfl : others = [] := (List.cons.inj (hpiece.symm.trans hone)).2
    rw [List.map_cons, ih hword.2 (c :: before) rfl, List.nil_append]

/-- A text without capitals is the word itself if its lower case is a plain word. -/
theorem eq_of_lowerCase_eq {text word : List Char} (hcapital : NoCapital text)
    (hword : word.all isPlainLetter) (h : lowerCase text = word) : text = word := by
  have hmap := map_lowerChar_of_lowerCase_eq hword h
  rw [← hmap, List.all_map, List.all_eq_true] at hword
  calc text = text.map id := (List.map_id text).symm
    _ = text.map lowerChar := List.map_congr_left fun c hc =>
      (eq_of_isPlainLetter_lowerChar (hcapital c hc) (hword c hc)).symm
    _ = word := hmap

/-- Only letters of ASCII make a plain word. -/
theorem isAlpha_of_lowerCase_eq {text word : List Char} (hword : word.all isPlainLetter)
    (h : lowerCase text = word) : ∀ c ∈ text, c.isAlpha := by
  rw [← map_lowerChar_of_lowerCase_eq hword h, List.all_map, List.all_eq_true] at hword
  exact fun c hc => isAlpha_of_isPlainLetter_lowerChar (hword c hc)

/-- A plain word is reached in one step. -/
theorem lowered_eq_of_lowered_lowered {text word : String} (hword : word.toList.all isPlainLetter)
    (h : lowered (lowered text) = word) : lowered text = word := by
  have hcase : lowerCase (lowerCase text.toList) = word.toList := by
    rw [← h, lowered, lowered, String.toList_ofList, String.toList_ofList]
  rw [lowered, eq_of_lowerCase_eq (noCapital_lowerCase _) hword hcase, String.ofList_toList]

end TestCoverage.Text
