/-
  TestCoverage.Proofs.Json.Scalars

  Passing over a value that contains no others, and over the name of a member.
-/
import TestCoverage.Json.Ignored
import TestCoverage.Proofs.Json.Strings
import TestCoverage.Proofs.Json.Tokens

namespace TestCoverage.Json

/-! ## First characters -/

theorem IsNumber.exists_cons {written : List Char} (h : IsNumber written) :
    ∃ c rest, written = c :: rest ∧ (c = '-' ∨ c.isDigit) := by
  obtain ⟨sign, whole, fraction, exponent, hsign, hwhole, -, -, rfl⟩ := h
  rcases hsign with rfl | rfl
  · obtain ⟨c, digits, rfl, hc⟩ := hwhole.exists_cons
    exact ⟨c, _, rfl, .inr hc⟩
  · exact ⟨'-', _, rfl, .inl rfl⟩

/-- No value begins with white space or with what closes a container. -/
theorem IsValue.exists_cons {value : Value} {written : List Char} (h : IsValue value written) :
    ∃ c rest, written = c :: rest ∧ ¬ isSpace c ∧ c ≠ ']' ∧ c ≠ '\x7d' := by
  cases h with
  | number hnumber =>
    obtain ⟨c, rest, rfl, hc⟩ := hnumber.exists_cons
    refine ⟨c, rest, rfl, ?_, ?_, ?_⟩
    · rw [isSpace_iff]
      rintro (rfl | rfl | rfl | rfl) <;> simp at hc
    · rintro rfl
      simp at hc
    · rintro rfl
      simp at hc
  | null => exact ⟨_, _, rfl, by decide⟩
  | true => exact ⟨_, _, rfl, by decide⟩
  | false => exact ⟨_, _, rfl, by decide⟩
  | string => exact ⟨_, _, rfl, by decide⟩
  | list => exact ⟨_, _, rfl, by decide⟩
  | object => exact ⟨_, _, rfl, by decide⟩

theorem IsValue.length_pos {value : Value} {written : List Char} (h : IsValue value written) :
    0 < written.length := by
  obtain ⟨c, rest, rfl, -⟩ := h.exists_cons
  exact Nat.succ_pos _

theorem IsMember.exists_cons {member : Member} {written : List Char}
    (h : IsMember member written) : ∃ rest, written = '"' :: rest := by
  cases h
  exact ⟨_, rfl⟩

/-! ## Scalars -/

/-- The value is neither a list nor an object. -/
def Value.IsScalar : Value → Prop
  | .list _ => False
  | .object _ => False
  | _ => True

theorem skipScalar_sound {text rest : List Char} (h : skipScalar text = .ok rest) :
    ∃ value written, IsValue value written ∧ text = written ++ rest := by
  unfold skipScalar at h
  split at h
  · cases h
  split at h
  · next hn =>
    obtain rfl := readWord_eq_ok_iff.mp h
    exact ⟨.null, _, .null, by rw [hn]; rfl⟩
  split at h
  · next ht =>
    obtain rfl := readWord_eq_ok_iff.mp h
    exact ⟨.boolean true, _, .true, by rw [ht]; rfl⟩
  split at h
  · next hf =>
    obtain rfl := readWord_eq_ok_iff.mp h
    exact ⟨.boolean false, _, .false, by rw [hf]; rfl⟩
  split at h
  · next hquote =>
    obtain ⟨pieces, written, hpieces, rfl⟩ := skipString_sound h
    exact ⟨.string pieces, _, .string hpieces, by simp [hquote]⟩
  split at h
  · obtain ⟨⟨numeral, rest'⟩, hnumeral, rfl⟩ := Except.map_eq_ok_iff.mp h
    obtain ⟨written, hnumber, htext⟩ := readNumeral_sound hnumeral
    exact ⟨.number written, written, .number hnumber, htext⟩
  · cases h

theorem skipScalar_complete {value : Value} {written rest : List Char}
    (hvalue : IsValue value written) (hscalar : value.IsScalar) (hrest : Stops rest) :
    skipScalar (written ++ rest) = .ok rest := by
  cases hvalue with
  | null => rfl
  | true => rfl
  | false => rfl
  | string hpieces =>
    simp [skipScalar, skipString_complete hpieces]
  | number hnumber =>
    obtain ⟨numeral, hread⟩ := readNumeral_complete .invalidNumber hnumber hrest
    obtain ⟨c, behind, rfl, hc⟩ := hnumber.exists_cons
    have hletter : c ≠ 'n' ∧ c ≠ 't' ∧ c ≠ 'f' ∧ c ≠ '"' := by
      refine ⟨?_, ?_, ?_, ?_⟩ <;> rintro rfl <;> simp at hc
    rw [List.cons_append] at hread
    simp [skipScalar, hletter, hc, hread, Except.map]
  | list => cases hscalar
  | object => cases hscalar

/-! ## Keys -/

theorem readColon_eq_ok_iff {text rest : List Char} :
    readColon text = .ok rest ↔ ∃ space, Spaces space ∧ text = space ++ ':' :: rest := by
  rw [← skipSpace_eq_cons_iff (by decide)]
  unfold readColon
  split
  · next hnil => simp [hnil]
  · next c behind hcons =>
    by_cases hc : c = ':' <;> simp [hcons, hc]

theorem skipKey_eq_ok_iff {text rest : List Char} :
    skipKey text = .ok rest ↔
      ∃ space pieces name space', Spaces space ∧ IsPieces pieces name ∧ Spaces space' ∧
        text = space ++ '"' :: (name ++ '"' :: (space' ++ ':' :: rest)) := by
  constructor
  · intro h
    unfold skipKey at h
    split at h
    · cases h
    · next c behind hcons =>
      split at h
      · next hquote =>
        obtain ⟨colon, hname, hcolon⟩ := Except.bind_eq_ok_iff.mp h
        obtain ⟨pieces, name, hpieces, rfl⟩ := skipString_sound hname
        obtain ⟨space', hspace', rfl⟩ := readColon_eq_ok_iff.mp hcolon
        rw [hquote] at hcons
        obtain ⟨space, hspace, rfl⟩ := (skipSpace_eq_cons_iff (by decide)).mp hcons
        exact ⟨space, pieces, name, space', hspace, hpieces, hspace', rfl⟩
      · cases h
  · rintro ⟨space, pieces, name, space', hspace, hpieces, hspace', rfl⟩
    have hcolon : readColon (space' ++ ':' :: rest) = .ok rest :=
      readColon_eq_ok_iff.mpr ⟨space', hspace', rfl⟩
    rw [skipKey, skipSpace_append hspace, skipSpace_cons_of_not (by decide)]
    simp [skipString_complete hpieces, hcolon, bind, Except.bind]

end TestCoverage.Json
