/-
  TestCoverage.Proofs.Json.Record

  Records, as they are read from objects and from lists.
-/
import TestCoverage.Proofs.Json.Objects

namespace TestCoverage.Json

/-! ## What a record means -/

section
variable {σ : Type}

/-- The fields in their own order, as many as there are values. -/
def putElements? : List (FieldMeaning σ) → σ → List Value → Option σ
  | _, record, [] => some record
  | [], _, _ :: _ => none
  | field :: fields, record, value :: values =>
    (field.put? record value).bind fun record => putElements? fields record values

@[simp] theorem putElements?_nil (fields : List (FieldMeaning σ)) (record : σ) :
    putElements? fields record [] = some record := by
  cases fields <;> rfl

/-- The record that a value stands for. -/
def record? (fields : List (FieldMeaning σ)) (default : σ) : Value → Option σ
  | .object members => putMembers? fields [] default members
  | .list elements => putElements? fields default elements
  | _ => none

end

/-! ## Lists -/

theorem readListEnd_eq_ok_iff {text rest : List Char} :
    readListEnd text = .ok rest ↔ ∃ space, Spaces space ∧ text = space ++ ']' :: rest := by
  rw [← skipSpace_eq_cons_iff (by decide)]
  unfold readListEnd
  split
  · next hnil => simp [hnil]
  · next c behind hcons =>
    rw [hcons]
    by_cases hc : c = ']'
    · simp [hc]
    · simp only [hc, if_false]
      split
      · split <;> simp [hc]
      · simp [hc]

section
variable {σ : Type} {own : List (Field σ)} {fields : List (FieldMeaning σ)}

theorem readFields_sound (hfields : List.Forall₂ Field.Means own fields) {record record' : σ}
    {text rest : List Char} (h : readFields own false record text = .ok (record', rest)) :
    ∃ elements written, Tail IsValue ']' elements written ∧
      putElements? fields record elements = some record' ∧ text = written ++ rest := by
  induction hfields generalizing record text with
  | nil =>
    obtain ⟨rest, hend, heq⟩ := Except.map_eq_ok_iff.mp h
    cases heq
    obtain ⟨space, hspace, rfl⟩ := readListEnd_eq_ok_iff.mp hend
    exact ⟨[], _, .close hspace, rfl, by simp⟩
  | @cons field meaning own fields hmeans _ ih =>
    rw [readFields] at h
    split at h
    · cases h
    · next hlast =>
      cases h
      obtain ⟨space, hspace, rfl⟩ := nextElement_eq_last_iff.mp hlast
      exact ⟨[], _, .close hspace, putElements?_nil .., by simp⟩
    · next hmore =>
      obtain ⟨space, space', hspace, hspace', rfl⟩ := nextElement_false_sound hmore
      split at h
      · cases h
      · next hread =>
        obtain ⟨space'', value, written, hspace'', hvalue, hput, rfl⟩ :=
          (hmeans.2 _ _ _ _).mp hread
        obtain ⟨elements, tail, htail, hputs, rfl⟩ := ih h
        refine ⟨value :: elements, _, .item hspace (hspace'.append hspace'') hvalue htail, ?_,
          by simp⟩
        simp [putElements?, hput, hputs]

theorem readFields_complete (hfields : List.Forall₂ Field.Means own fields)
    {elements : List Value} {written : List Char} {record record' : σ}
    (h : Tail IsValue ']' elements written)
    (hputs : putElements? fields record elements = some record') (rest : List Char) :
    readFields own false record (written ++ rest) = .ok (record', rest) := by
  induction h generalizing own fields record with
  | @close space hspace =>
    rw [putElements?_nil, Option.some.injEq] at hputs
    subst hputs
    cases hfields with
    | nil =>
      have hend : readListEnd (space ++ [']'] ++ rest) = .ok rest :=
        readListEnd_eq_ok_iff.mpr ⟨space, hspace, by simp⟩
      rw [readFields, hend]
      rfl
    | cons =>
      have hlast : nextElement false (space ++ [']'] ++ rest) = .ok (.last rest) :=
        nextElement_eq_last_iff.mpr ⟨space, hspace, by simp⟩
      rw [readFields, hlast]
  | @item space space' written tail value elements hspace hspace' hvalue htail ih =>
    cases hfields with
    | nil => cases hputs
    | @cons field meaning own fields hmeans hfields =>
      obtain ⟨record₁, hput, hputs⟩ := Option.bind_eq_some_iff.mp hputs
      have hfirst := (hmeans.2 record).of_isValue hvalue hput (tail ++ rest)
      have hothers := ih hfields hputs
      have hmore := nextElement_false_complete hspace hspace' hvalue (tail ++ rest)
      simp only [List.append_assoc, List.cons_append]
      rw [readFields, hmore]
      simp only [hfirst, hothers]

/-- The elements behind the opening bracket. -/
theorem readFields_true_iff (hfields : List.Forall₂ Field.Means own fields)
    {text rest : List Char} {record record' : σ} :
    readFields own true record text = .ok (record', rest) ↔
      ∃ elements body, Body IsValue ']' elements body ∧
        putElements? fields record elements = some record' ∧ text = body ++ rest := by
  cases hfields with
  | nil =>
    simp only [readFields, Except.map_eq_ok_iff, Prod.mk.injEq, readListEnd_eq_ok_iff]
    constructor
    · rintro ⟨_, ⟨space, hspace, rfl⟩, rfl, rfl⟩
      exact ⟨[], _, .empty hspace, rfl, by simp⟩
    · rintro ⟨elements, body, hbody, hputs, rfl⟩
      cases hbody with
      | empty hspace =>
        cases hputs
        exact ⟨rest, ⟨_, hspace, by simp⟩, rfl, rfl⟩
      | items => cases hputs
  | @cons field meaning own fields hmeans hfields =>
    rw [readFields]
    constructor
    · intro h
      split at h
      · cases h
      · next hlast =>
        cases h
        obtain ⟨space, hspace, rfl⟩ := nextElement_eq_last_iff.mp hlast
        exact ⟨[], _, .empty hspace, rfl, by simp⟩
      · next hmore =>
        obtain ⟨space, hspace, rfl⟩ := nextElement_true_sound hmore
        split at h
        · cases h
        · next hread =>
          obtain ⟨space', value, written, hspace', hvalue, hput, rfl⟩ :=
            (hmeans.2 _ _ _ _).mp hread
          obtain ⟨elements, tail, htail, hputs, rfl⟩ := readFields_sound hfields h
          refine ⟨value :: elements, _, .items (hspace.append hspace') hvalue htail, ?_,
            by simp⟩
          simp [putElements?, hput, hputs]
    · rintro ⟨elements, body, hbody, hputs, rfl⟩
      cases hbody with
      | @empty space hspace =>
        cases hputs
        have hlast : nextElement true (space ++ [']'] ++ rest) = .ok (.last rest) :=
          nextElement_eq_last_iff.mpr ⟨space, hspace, by simp⟩
        rw [hlast]
      | @items space written tail value elements hspace hvalue htail =>
        obtain ⟨record₁, hput, hputs⟩ := Option.bind_eq_some_iff.mp hputs
        have hfirst := (hmeans.2 record).of_isValue hvalue hput (tail ++ rest)
        have hothers := readFields_complete hfields htail hputs rest
        have hmore := nextElement_true_complete hspace hvalue (tail ++ rest)
        simp only [List.append_assoc, hmore, hfirst, hothers]

end

/-! ## Records -/

/-- A record is read from an object or from a list. -/
theorem Shape.reads {σ : Type} {shape : Shape σ} {fields : List (FieldMeaning σ)}
    (hfields : List.Forall₂ Field.Means shape.fields fields) :
    Reads shape.read (record? fields shape.default) := by
  intro text record rest
  obtain ⟨space, hspace, htext⟩ := exists_skipSpace text
  constructor
  · intro h
    unfold Shape.read at h
    split at h
    · cases h
    · next inner hcons =>
      obtain ⟨members, body, hbody, hrecord, rfl⟩ :=
        (readMembers_true_iff hfields (Nat.le_refl _)).mp h
      exact ⟨space, .object members, _, hspace, .object hbody, hrecord,
        by rw [htext, hcons]; rfl⟩
    · next inner hcons =>
      obtain ⟨elements, body, hbody, hrecord, rfl⟩ := (readFields_true_iff hfields).mp h
      exact ⟨space, .list elements, _, hspace, .list hbody, hrecord, by rw [htext, hcons]; rfl⟩
    · cases h
  · rintro ⟨space, value, written, hspace, hvalue, hrecord, rfl⟩
    cases hvalue with
    | object hbody =>
      rw [Shape.read, skipSpace_append hspace, List.cons_append,
        skipSpace_cons_of_not (by decide)]
      exact (readMembers_true_iff hfields (Nat.le_refl _)).mpr ⟨_, _, hbody, hrecord, rfl⟩
    | list hbody =>
      rw [Shape.read, skipSpace_append hspace, List.cons_append,
        skipSpace_cons_of_not (by decide)]
      exact (readFields_true_iff hfields).mpr ⟨_, _, hbody, hrecord, rfl⟩
    | _ => cases hrecord

end TestCoverage.Json
