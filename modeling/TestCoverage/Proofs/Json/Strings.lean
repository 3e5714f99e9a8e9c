/-
  TestCoverage.Proofs.Json.Strings

  The two readers of strings.  Passing over a string asks only that its pieces are
  well-formed; reading it asks that they stand for a text.
-/
import TestCoverage.Json.Token
import TestCoverage.Proofs.Except
import TestCoverage.Proofs.Json.Grammar

namespace TestCoverage.Json

/-! ## Escapes -/

theorem letterEscape?_eq_some_iff {letter c : Char} :
    letterEscape? letter = some c ↔ (letter, c) ∈ escapes := by
  constructor
  · intro h
    unfold letterEscape? at h
    split at h <;> cases h <;> simp [escapes]
  · intro h
    simp only [escapes, List.mem_cons, Prod.mk.injEq, List.not_mem_nil, or_false] at h
    rcases h with ⟨rfl, rfl⟩ | ⟨rfl, rfl⟩ | ⟨rfl, rfl⟩ | ⟨rfl, rfl⟩ | ⟨rfl, rfl⟩ | ⟨rfl, rfl⟩ |
      ⟨rfl, rfl⟩ | ⟨rfl, rfl⟩ <;> rfl

theorem hexUnit?_eq_some_iff {h₁ h₂ h₃ h₄ : Char} {unit : Nat} :
    hexUnit? h₁ h₂ h₃ h₄ = some unit ↔ IsPiece (.unit unit) ['\\', 'u', h₁, h₂, h₃, h₄] := by
  constructor
  · intro h
    simp only [hexUnit?, Text.hexValue?] at h
    -- If one of the four is no digit, there is no unit.
    cases hd₁ : Text.hexDigit? h₁ <;> cases hd₂ : Text.hexDigit? h₂ <;>
      cases hd₃ : Text.hexDigit? h₃ <;> cases hd₄ : Text.hexDigit? h₄ <;>
      simp only [hd₁, hd₂, hd₃, hd₄, reduceCtorEq, Option.some.injEq] at h
    subst h
    simpa using IsPiece.unit hd₁ hd₂ hd₃ hd₄
  · intro h
    cases h with
    | unit hd₁ hd₂ hd₃ hd₄ => simp [hexUnit?, Text.hexValue?, hd₁, hd₂, hd₃, hd₄]

theorem isHighSurrogate_iff {unit : Nat} : isHighSurrogate unit ↔ IsHigh unit := by
  simp only [isHighSurrogate, Bool.and_eq_true, decide_eq_true_eq, IsHigh]
  omega

theorem isLowSurrogate_iff {unit : Nat} : isLowSurrogate unit ↔ IsLow unit := by
  simp only [isLowSurrogate, Bool.and_eq_true, decide_eq_true_eq, IsLow]
  omega

/-- The letter of a unit is no other escape. -/
theorem not_mem_escapes_u {c : Char} : ('u', c) ∉ escapes := by
  simp [escapes]

theorem ne_u_of_mem_escapes {letter c : Char} (h : (letter, c) ∈ escapes) : letter ≠ 'u' := by
  rintro rfl
  exact not_mem_escapes_u h

/-! ## Passing over a string -/

/-- One piece is passed over. -/
theorem skipString_append {piece : Piece} {written : List Char} (h : IsPiece piece written)
    (rest : List Char) : skipString (written ++ rest) = skipString rest := by
  cases h with
  | plain hquote hbackslash hcontrol =>
    rw [List.singleton_append, skipString.eq_def]
    simp [hquote, hbackslash, Nat.not_lt.mpr hcontrol]
  | escape hescape =>
    simp only [List.cons_append, List.nil_append]
    rw [skipString.eq_def]
    simp [ne_u_of_mem_escapes hescape, letterEscape?_eq_some_iff.mpr hescape]
  | unit hd₁ hd₂ hd₃ hd₄ =>
    have hunit := hexUnit?_eq_some_iff.mpr (IsPiece.unit hd₁ hd₂ hd₃ hd₄)
    simp only [List.cons_append, List.nil_append]
    rw [skipString.eq_def]
    simp [hunit]

theorem skipString_complete {pieces : List Piece} {written : List Char}
    (h : IsPieces pieces written) (rest : List Char) :
    skipString (written ++ '"' :: rest) = .ok rest := by
  induction h with
  | nil => simp [skipString.eq_def]
  | cons hpiece _ ih => rw [List.append_assoc, skipString_append hpiece, ih]

theorem skipString_sound {text rest : List Char} (h : skipString text = .ok rest) :
    ∃ pieces written, IsPieces pieces written ∧ text = written ++ '"' :: rest := by
  -- Every case either fails or passes over one piece and goes on with the rest.
  fun_induction skipString text with
  | case1 => cases h
  | case2 text =>
    cases h
    exact ⟨[], [], .nil, rfl⟩
  | case3 => cases h
  | case4 => cases h
  | case5 h₁ h₂ h₃ h₄ text unit hunit _ ih =>
    obtain ⟨pieces, written, hpieces, rfl⟩ := ih h
    exact ⟨_, _, .cons (hexUnit?_eq_some_iff.mp hunit) hpieces, rfl⟩
  | case6 => cases h
  | case7 letter text _ c hletter _ ih =>
    obtain ⟨pieces, written, hpieces, rfl⟩ := ih h
    exact ⟨_, _, .cons (.escape (letterEscape?_eq_some_iff.mp hletter)) hpieces, rfl⟩
  | case8 => cases h
  | case9 => cases h
  | case10 c text hquote hbackslash hcontrol ih =>
    obtain ⟨pieces, written, hpieces, rfl⟩ := ih h
    exact ⟨_, _, .cons (.plain hquote hbackslash (Nat.not_lt.mp hcontrol)) hpieces, rfl⟩

/-! ## Reading a string -/

theorem Reading.cons_eq_ok_iff {c : Char} {reading : Reading (List Char)} {s rest : List Char} :
    Reading.cons c reading = .ok (s, rest) ↔ ∃ s', reading = .ok (s', rest) ∧ s = c :: s' := by
  simp only [Reading.cons, Except.map_eq_ok_iff, Prod.mk.injEq, Prod.exists]
  constructor
  · rintro ⟨s', rest', h, rfl, rfl⟩
    exact ⟨s', h, rfl⟩
  · rintro ⟨s', h, rfl⟩
    exact ⟨s', rest, h, rfl, rfl⟩

theorem readString_sound {text s rest : List Char} (h : readString text = .ok (s, rest)) :
    ∃ pieces written, IsPieces pieces written ∧ unescape? pieces = some s ∧
      text = written ++ '"' :: rest := by
  -- The cases are those of passing over a string, with the units told apart.
  fun_induction readString text generalizing s with
  | case1 => cases h
  | case2 text =>
    cases h
    exact ⟨[], [], .nil, rfl, rfl⟩
  | case3 => cases h
  | case4 => cases h
  | case5 => cases h
  | case6 => cases h
  | case7 h₁ h₂ h₃ h₄ high hunit hnotLow hhigh l₁ l₂ l₃ l₄ text low hunit' hlow _ ih =>
    -- Both halves of a pair are read at once, and stand for one character.
    obtain ⟨s', h', rfl⟩ := Reading.cons_eq_ok_iff.mp h
    obtain ⟨pieces, written, hpieces, hs, rfl⟩ := ih h'
    refine ⟨.unit high :: .unit low :: pieces, _, .cons (hexUnit?_eq_some_iff.mp hunit)
      (.cons (hexUnit?_eq_some_iff.mp hunit') hpieces), ?_, rfl⟩
    rw [isLowSurrogate_iff] at hnotLow hlow
    rw [isHighSurrogate_iff] at hhigh
    simp [unescape?, hnotLow, hlow, hhigh, hs, pairChar]
  | case8 => cases h
  | case9 => cases h
  | case10 h₁ h₂ h₃ h₄ text unit hunit hnotLow hnotHigh _ ih =>
    obtain ⟨s', h', rfl⟩ := Reading.cons_eq_ok_iff.mp h
    obtain ⟨pieces, written, hpieces, hs, rfl⟩ := ih h'
    refine ⟨_, _, .cons (hexUnit?_eq_some_iff.mp hunit) hpieces, ?_, rfl⟩
    rw [isLowSurrogate_iff] at hnotLow
    rw [isHighSurrogate_iff] at hnotHigh
    rw [unescape?.eq_def]
    simp [hnotLow, hnotHigh, hs]
  | case11 => cases h
  | case12 letter text _ c hletter _ ih =>
    obtain ⟨s', h', rfl⟩ := Reading.cons_eq_ok_iff.mp h
    obtain ⟨pieces, written, hpieces, hs, rfl⟩ := ih h'
    refine ⟨_, _, .cons (.escape (letterEscape?_eq_some_iff.mp hletter)) hpieces, ?_, rfl⟩
    simp [unescape?, hs]
  | case13 => cases h
  | case14 => cases h
  | case15 c text hquote hbackslash hcontrol ih =>
    obtain ⟨s', h', rfl⟩ := Reading.cons_eq_ok_iff.mp h
    obtain ⟨pieces, written, hpieces, hs, rfl⟩ := ih h'
    refine ⟨_, _, .cons (.plain hquote hbackslash (Nat.not_lt.mp hcontrol)) hpieces, ?_, rfl⟩
    simp [unescape?, hs]

/-- A piece that stands for a character by itself. -/
theorem readString_char {c : Char} {written : List Char} (h : IsPiece (.char c) written)
    (rest : List Char) :
    readString (written ++ rest) = (readString rest).cons c := by
  cases h with
  | plain hquote hbackslash hcontrol =>
    rw [List.singleton_append, readString.eq_def]
    simp [hquote, hbackslash, Nat.not_lt.mpr hcontrol]
  | escape hescape =>
    simp only [List.cons_append, List.nil_append]
    rw [readString.eq_def]
    simp [ne_u_of_mem_escapes hescape, letterEscape?_eq_some_iff.mpr hescape]

theorem readString_unit {unit : Nat} {written : List Char} (h : IsPiece (.unit unit) written)
    (hnotLow : ¬ IsLow unit) (hnotHigh : ¬ IsHigh unit) (rest : List Char) :
    readString (written ++ rest) = (readString rest).cons (Char.ofNat unit) := by
  cases h with
  | unit hd₁ hd₂ hd₃ hd₄ =>
    have hunit := hexUnit?_eq_some_iff.mpr (IsPiece.unit hd₁ hd₂ hd₃ hd₄)
    simp only [List.cons_append, List.nil_append]
    rw [readString.eq_def]
    simp [hunit, isLowSurrogate_iff, isHighSurrogate_iff, hnotLow, hnotHigh]

theorem readString_pair {high low : Nat} {written written' : List Char}
    (h : IsPiece (.unit high) written) (h' : IsPiece (.unit low) written') (hhigh : IsHigh high)
    (hlow : IsLow low) (rest : List Char) :
    readString (written ++ (written' ++ rest)) =
      (readString rest).cons (pairChar high low) := by
  -- The two halves have different ranges, so the first is not refused as a second one.
  have hnotLow : ¬ IsLow high := fun h => by
    have := h.1
    have := hhigh.2
    omega
  cases h with
  | unit hd₁ hd₂ hd₃ hd₄ =>
    have hunit := hexUnit?_eq_some_iff.mpr (IsPiece.unit hd₁ hd₂ hd₃ hd₄)
    cases h' with
    | unit hl₁ hl₂ hl₃ hl₄ =>
      have hunit' := hexUnit?_eq_some_iff.mpr (IsPiece.unit hl₁ hl₂ hl₃ hl₄)
      simp only [List.cons_append, List.nil_append]
      rw [readString.eq_def]
      simp [hunit, hunit', isLowSurrogate_iff, isHighSurrogate_iff, hnotLow, hhigh, hlow]

theorem readString_complete {pieces : List Piece} {written s : List Char}
    (h : IsPieces pieces written) (hs : unescape? pieces = some s) (rest : List Char) :
    readString (written ++ '"' :: rest) = .ok (s, rest) := by
  -- The induction is on what the pieces stand for, which takes the halves of a pair together.
  fun_induction unescape? pieces generalizing s written with
  | case1 =>
    cases h
    cases hs
    simp [readString.eq_def]
  | case2 c pieces ih =>
    obtain ⟨s', hs', rfl⟩ := Option.map_eq_some_iff.mp hs
    cases h with
    | cons hpiece hpieces =>
      rw [List.append_assoc, readString_char hpiece, ih hpieces hs']
      rfl
  | case3 => cases hs
  | case4 high hnotLow hhigh low pieces hlow ih =>
    obtain ⟨s', hs', rfl⟩ := Option.map_eq_some_iff.mp hs
    cases h with
    | cons hpiece hpieces =>
      cases hpieces with
      | cons hpiece' hpieces =>
        rw [List.append_assoc, List.append_assoc, readString_pair hpiece hpiece' hhigh hlow,
          ih hpieces hs']
        rfl
  | case5 => cases hs
  | case6 => cases hs
  | case7 unit pieces hnotLow hnotHigh ih =>
    obtain ⟨s', hs', rfl⟩ := Option.map_eq_some_iff.mp hs
    cases h with
    | cons hpiece hpieces =>
      rw [List.append_assoc, readString_unit hpiece hnotLow hnotHigh, ih hpieces hs']
      rfl

end TestCoverage.Json
