/-
  TestCoverage.Proofs.Json.Tokens

  White space, words and numbers.  The reader of numbers takes a number as the grammar has
  it, and all of it: the text behind must not go on with what could belong to the number.
-/
import Mathlib.Data.List.TakeWhile
import TestCoverage.Json.Token
import TestCoverage.Proofs.Except
import TestCoverage.Proofs.Json.Grammar

namespace TestCoverage.Json

/-! ## White space -/

theorem isSpace_iff {c : Char} : isSpace c ↔ c = ' ' ∨ c = '\n' ∨ c = '\t' ∨ c = '\r' := by
  simp only [isSpace, Bool.or_eq_true, beq_iff_eq, or_assoc]

theorem spaces_nil : Spaces [] := by
  simp [Spaces]

theorem Spaces.append {a b : List Char} (ha : Spaces a) (hb : Spaces b) : Spaces (a ++ b) :=
  List.forall_mem_append.mpr ⟨ha, hb⟩

/-- What is skipped is white space, and nothing of it is left. -/
theorem exists_skipSpace (text : List Char) :
    ∃ space, Spaces space ∧ text = space ++ skipSpace text := by
  refine ⟨text.takeWhile isSpace, fun c hc => ?_, (List.takeWhile_append_dropWhile ..).symm⟩
  exact isSpace_iff.mp (List.mem_takeWhile_imp hc)

theorem skipSpace_append {space : List Char} (h : Spaces space) (rest : List Char) :
    skipSpace (space ++ rest) = skipSpace rest :=
  List.dropWhile_append_of_pos fun c hc => isSpace_iff.mpr (h c hc)

@[simp] theorem skipSpace_cons_of_not {c : Char} (h : ¬ isSpace c) (rest : List Char) :
    skipSpace (c :: rest) = c :: rest :=
  List.dropWhile_cons_of_neg h

@[simp] theorem skipSpace_skipSpace (text : List Char) :
    skipSpace (skipSpace text) = skipSpace text := by
  obtain ⟨space, hspace, htext⟩ := exists_skipSpace text
  exact ((congrArg skipSpace htext).trans (skipSpace_append hspace _)).symm

/-- The text behind white space begins with this character. -/
theorem skipSpace_eq_cons_iff {text rest : List Char} {c : Char} (hc : ¬ isSpace c) :
    skipSpace text = c :: rest ↔ ∃ space, Spaces space ∧ text = space ++ c :: rest := by
  constructor
  · intro h
    obtain ⟨space, hspace, htext⟩ := exists_skipSpace text
    exact ⟨space, hspace, h ▸ htext⟩
  · rintro ⟨space, hspace, rfl⟩
    rw [skipSpace_append hspace, skipSpace_cons_of_not hc]

/-! ## Words -/

theorem readWord_eq_ok_iff {letters text rest : List Char} :
    readWord letters text = .ok rest ↔ text = letters ++ rest := by
  induction letters generalizing text with
  | nil => simp [readWord]
  | cons letter letters ih =>
    cases text with
    | nil => simp [readWord]
    | cons c text =>
      by_cases h : c = letter
      · simp [readWord, h, ih]
      · simp [readWord, h]

/-! ## Digits -/

/-- The text does not begin with a digit. -/
def NoDigit (text : List Char) : Prop :=
  ∀ c ∈ text.head?, ¬ c.isDigit

/-- The text does not go on with what could belong to a number. -/
def Stops (text : List Char) : Prop :=
  ∀ c ∈ text.head?, ¬ c.isDigit ∧ c ≠ '.' ∧ c ≠ 'e' ∧ c ≠ 'E'

theorem Stops.noDigit {text : List Char} (h : Stops text) : NoDigit text :=
  fun c hc => (h c hc).1

theorem readDigits_sound {atEnd : Problem} {text digits rest : List Char}
    (h : readDigits atEnd text = .ok (digits, rest)) :
    Digits digits ∧ text = digits ++ rest := by
  rw [readDigits] at h
  split at h
  · cases h
  · next hempty =>
    cases h
    refine ⟨⟨by simpa using hempty, fun c hc => ?_⟩, (List.takeWhile_append_dropWhile ..).symm⟩
    exact List.mem_takeWhile_imp hc

theorem readDigits_complete {digits rest : List Char} (atEnd : Problem) (h : Digits digits)
    (hrest : NoDigit rest) : readDigits atEnd (digits ++ rest) = .ok (digits, rest) := by
  -- The digits end where they should, as no digit follows.
  have hsplit : rest.takeWhile Char.isDigit = [] ∧ rest.dropWhile Char.isDigit = rest := by
    cases rest with
    | nil => exact ⟨rfl, rfl⟩
    | cons c rest =>
      have hc : ¬ c.isDigit := hrest c rfl
      exact ⟨List.takeWhile_cons_of_neg hc, List.dropWhile_cons_of_neg hc⟩
  rw [readDigits, List.takeWhile_append_of_pos h.2, List.dropWhile_append_of_pos h.2,
    hsplit.1, hsplit.2, List.append_nil, if_neg (by simpa using h.1)]

/-! ## Numbers -/

theorem readWhole_sound {atEnd : Problem} {text whole rest : List Char}
    (h : readWhole atEnd text = .ok (whole, rest)) :
    IsWhole whole ∧ text = whole ++ rest := by
  unfold readWhole at h
  split at h
  · have hzero : IsWhole ['0'] := ⟨⟨by simp, by simp⟩, fun _ => rfl⟩
    split at h
    · split at h
      · cases h
      · cases h
        exact ⟨hzero, rfl⟩
    · cases h
      exact ⟨hzero, rfl⟩
  · next hzero =>
    -- The digits do not begin with a zero, since that would have been the first case.
    obtain ⟨hdigits, rfl⟩ := readDigits_sound h
    refine ⟨⟨hdigits, fun hhead => ?_⟩, rfl⟩
    obtain ⟨digits, rfl⟩ := List.head?_eq_some_iff.mp hhead
    exact absurd rfl (hzero _)

theorem readWhole_complete {whole rest : List Char} (atEnd : Problem) (h : IsWhole whole)
    (hrest : NoDigit rest) : readWhole atEnd (whole ++ rest) = .ok (whole, rest) := by
  obtain ⟨hdigits, hzero⟩ := h
  unfold readWhole
  split
  · next htext =>
    obtain ⟨c, digits, rfl⟩ := List.exists_cons_of_ne_nil hdigits.1
    rw [List.cons_append, List.cons.injEq] at htext
    obtain ⟨rfl, rfl⟩ := htext
    obtain rfl : digits = [] := by simpa using hzero rfl
    cases rest with
    | nil => rfl
    | cons c rest => simpa using hrest c rfl
  · exact readDigits_complete atEnd hdigits hrest

theorem readFraction_sound {atEnd : Problem} {text rest : List Char}
    {digits : Option (List Char)} (h : readFraction atEnd text = .ok (digits, rest)) :
    ∃ fraction, IsFraction fraction ∧ text = fraction ++ rest := by
  unfold readFraction at h
  split at h
  · obtain ⟨⟨read, rest'⟩, hread, heq⟩ := Except.map_eq_ok_iff.mp h
    cases heq
    obtain ⟨hdigits, rfl⟩ := readDigits_sound hread
    exact ⟨'.' :: read, .inr ⟨read, hdigits, rfl⟩, rfl⟩
  · cases h
    exact ⟨[], .inl rfl, rfl⟩

theorem readFraction_complete {fraction rest : List Char} (atEnd : Problem)
    (h : IsFraction fraction) (hrest : NoDigit rest) (hpoint : '.' ∉ rest.head?) :
    ∃ digits, readFraction atEnd (fraction ++ rest) = .ok (digits, rest) := by
  rcases h with rfl | ⟨digits, hdigits, rfl⟩
  · refine ⟨none, ?_⟩
    cases rest with
    | nil => rfl
    | cons c rest =>
      have hc : c ≠ '.' := by simpa using hpoint
      simp [readFraction, hc]
  · exact ⟨some digits, by simp [readFraction, readDigits_complete atEnd hdigits hrest, Except.map]⟩

theorem readSign_sound (text : List Char) :
    ∃ sign, (sign = [] ∨ sign = ['+'] ∨ sign = ['-']) ∧ text = sign ++ (readSign text).2 := by
  unfold readSign
  split
  · exact ⟨['-'], by simp, rfl⟩
  · exact ⟨['+'], by simp, rfl⟩
  · exact ⟨[], by simp, rfl⟩

theorem readSign_complete {sign digits : List Char}
    (h : sign = [] ∨ sign = ['+'] ∨ sign = ['-']) (hdigits : Digits digits)
    (rest : List Char) :
    ∃ negative, readSign (sign ++ (digits ++ rest)) = (negative, digits ++ rest) := by
  rcases h with rfl | rfl | rfl
  · obtain ⟨c, digits, rfl⟩ := List.exists_cons_of_ne_nil hdigits.1
    have hc : c.isDigit := hdigits.2 c (List.mem_cons_self ..)
    have hminus : c ≠ '-' := by rintro rfl; cases hc
    have hplus : c ≠ '+' := by rintro rfl; cases hc
    exact ⟨false, by simp [readSign, hminus, hplus]⟩
  · exact ⟨false, rfl⟩
  · exact ⟨true, rfl⟩

theorem readExponent_sound {atEnd : Problem} {text rest : List Char}
    {read : Option (Bool × List Char)} (h : readExponent atEnd text = .ok (read, rest)) :
    ∃ exponent, IsExponent exponent ∧ text = exponent ++ rest := by
  unfold readExponent at h
  split at h
  · next letter text =>
    split at h
    · next hletter =>
      obtain ⟨sign, hsign, htext⟩ := readSign_sound text
      -- Only the text behind the sign matters from here on.
      generalize readSign text = signed at h htext
      obtain ⟨⟨digits, rest'⟩, hread, heq⟩ := Except.map_eq_ok_iff.mp h
      cases heq
      obtain ⟨hdigits, hrest⟩ := readDigits_sound hread
      refine ⟨letter :: (sign ++ digits), .inr ⟨letter, sign, digits, hletter, hsign, hdigits,
        rfl⟩, ?_⟩
      rw [List.cons_append, List.append_assoc, ← hrest, ← htext]
    · cases h
      exact ⟨[], .inl rfl, rfl⟩
  · cases h
    exact ⟨[], .inl rfl, rfl⟩

theorem readExponent_complete {exponent rest : List Char} (atEnd : Problem)
    (h : IsExponent exponent) (hrest : Stops rest) :
    ∃ read, readExponent atEnd (exponent ++ rest) = .ok (read, rest) := by
  rcases h with rfl | ⟨letter, sign, digits, hletter, hsign, hdigits, rfl⟩
  · refine ⟨none, ?_⟩
    cases rest with
    | nil => rfl
    | cons c rest =>
      obtain ⟨-, -, he, hE⟩ := hrest c rfl
      simp [readExponent, he, hE]
  · obtain ⟨negative, hread⟩ := readSign_complete hsign hdigits rest
    refine ⟨some (negative, digits), ?_⟩
    simp [readExponent, hletter, hread, readDigits_complete atEnd hdigits hrest.noDigit,
      Except.map]

/-- The parts behind the sign of a number. -/
def readParts (atEnd : Problem) (negative : Bool) (text : List Char) :
    Except Fault (Numeral × List Char) := do
  let (whole, text) ← readWhole atEnd text
  let (fraction, text) ← readFraction atEnd text
  let (exponent, text) ← readExponent atEnd text
  return (⟨negative, whole, fraction, exponent⟩, text)

theorem readParts_sound {atEnd : Problem} {negative : Bool} {text rest : List Char}
    {numeral : Numeral} (h : readParts atEnd negative text = .ok (numeral, rest)) :
    ∃ whole fraction exponent, IsWhole whole ∧ IsFraction fraction ∧ IsExponent exponent ∧
      text = whole ++ (fraction ++ (exponent ++ rest)) := by
  obtain ⟨⟨whole, text₁⟩, h₁, h⟩ := Except.bind_eq_ok_iff.mp h
  obtain ⟨⟨fraction, text₂⟩, h₂, h⟩ := Except.bind_eq_ok_iff.mp h
  obtain ⟨⟨exponent, text₃⟩, h₃, h⟩ := Except.bind_eq_ok_iff.mp h
  cases h
  obtain ⟨hwhole, rfl⟩ := readWhole_sound h₁
  obtain ⟨fraction, hfraction, rfl⟩ := readFraction_sound h₂
  obtain ⟨exponent, hexponent, rfl⟩ := readExponent_sound h₃
  exact ⟨whole, fraction, exponent, hwhole, hfraction, hexponent, rfl⟩

/-- An exponent is not taken for digits or for a point. -/
theorem IsExponent.head?_append {exponent rest : List Char} (h : IsExponent exponent)
    (hrest : Stops rest) : ∀ c ∈ (exponent ++ rest).head?, ¬ c.isDigit ∧ c ≠ '.' := by
  rcases h with rfl | ⟨letter, sign, digits, hletter, -, -, rfl⟩
  · exact fun c hc => ⟨(hrest c hc).1, (hrest c hc).2.1⟩
  · rintro c ⟨⟩
    rcases hletter with rfl | rfl <;> decide

theorem readParts_complete {whole fraction exponent rest : List Char} (atEnd : Problem)
    (negative : Bool) (hwhole : IsWhole whole) (hfraction : IsFraction fraction)
    (hexponent : IsExponent exponent) (hrest : Stops rest) :
    ∃ numeral, readParts atEnd negative (whole ++ (fraction ++ (exponent ++ rest))) =
      .ok (numeral, rest) := by
  have hbehind := hexponent.head?_append hrest
  -- What stands behind each part cannot be taken for more of it.
  have hdigit : NoDigit (fraction ++ (exponent ++ rest)) := by
    rcases hfraction with rfl | ⟨digits, -, rfl⟩
    · exact fun c hc => (hbehind c hc).1
    · rintro c ⟨⟩
      decide
  obtain ⟨digits, h₂⟩ := readFraction_complete atEnd hfraction
    (fun c hc => (hbehind c hc).1) (fun hpoint => (hbehind '.' hpoint).2 rfl)
  obtain ⟨read, h₃⟩ := readExponent_complete atEnd hexponent hrest
  refine ⟨⟨negative, whole, digits, read⟩, ?_⟩
  simp [readParts, readWhole_complete atEnd hwhole hdigit, h₂, h₃, bind, Except.bind, pure,
    Except.pure]

theorem readNumeral_of_ne {atEnd : Problem} {text : List Char} (h : '-' ∉ text.head?) :
    readNumeral atEnd text = readParts atEnd false text := by
  unfold readNumeral
  split
  next negative text' hmatch =>
  split at hmatch
  · exact absurd rfl h
  · cases hmatch
    rfl

theorem readNumeral_sound {atEnd : Problem} {text rest : List Char} {numeral : Numeral}
    (h : readNumeral atEnd text = .ok (numeral, rest)) :
    ∃ written, IsNumber written ∧ text = written ++ rest := by
  by_cases hminus : '-' ∈ text.head?
  · obtain ⟨text, rfl⟩ := List.head?_eq_some_iff.mp hminus
    obtain ⟨whole, fraction, exponent, hwhole, hfraction, hexponent, rfl⟩ := readParts_sound h
    exact ⟨_, ⟨['-'], whole, fraction, exponent, .inr rfl, hwhole, hfraction, hexponent, rfl⟩,
      by simp⟩
  · rw [readNumeral_of_ne hminus] at h
    obtain ⟨whole, fraction, exponent, hwhole, hfraction, hexponent, rfl⟩ := readParts_sound h
    exact ⟨_, ⟨[], whole, fraction, exponent, .inl rfl, hwhole, hfraction, hexponent, rfl⟩,
      by simp⟩

/-- A number begins with a digit or with its sign. -/
theorem IsWhole.exists_cons {whole : List Char} (h : IsWhole whole) :
    ∃ c digits, whole = c :: digits ∧ c.isDigit := by
  obtain ⟨c, digits, rfl⟩ := List.exists_cons_of_ne_nil h.1.1
  exact ⟨c, digits, rfl, h.1.2 c (List.mem_cons_self ..)⟩

theorem readNumeral_complete {written rest : List Char} (atEnd : Problem)
    (h : IsNumber written) (hrest : Stops rest) :
    ∃ numeral, readNumeral atEnd (written ++ rest) = .ok (numeral, rest) := by
  obtain ⟨sign, whole, fraction, exponent, hsign, hwhole, hfraction, hexponent, rfl⟩ := h
  simp only [List.append_assoc]
  rcases hsign with rfl | rfl
  · obtain ⟨c, digits, rfl, hc⟩ := hwhole.exists_cons
    have hminus : c ≠ '-' := by rintro rfl; cases hc
    rw [List.nil_append, readNumeral_of_ne (by simpa using hminus)]
    exact readParts_complete atEnd false hwhole hfraction hexponent hrest
  · exact readParts_complete atEnd true hwhole hfraction hexponent hrest

end TestCoverage.Json
