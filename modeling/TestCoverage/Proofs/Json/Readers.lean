/-
  TestCoverage.Proofs.Json.Readers

  What a reader reads, as a function on values: it takes white space and one value of which
  the function is defined, and nothing else.
-/
import TestCoverage.Json.Record
import TestCoverage.Proofs.Json.Scalars

namespace TestCoverage.Json

/-- The reader takes the values that mean something, with the white space before them. -/
def Reads {α : Type} (read : Reader α) (meaning? : Value → Option α) : Prop :=
  ∀ text a rest, read text = .ok (a, rest) ↔
    ∃ space value written, Spaces space ∧ IsValue value written ∧ meaning? value = some a ∧
      text = space ++ (written ++ rest)

/-- A value at the beginning of the text is read. -/
theorem Reads.of_isValue {α : Type} {read : Reader α} {meaning? : Value → Option α}
    (hread : Reads read meaning?) {value : Value} {written : List Char} {a : α}
    (hvalue : IsValue value written) (hmeaning : meaning? value = some a) (rest : List Char) :
    read (written ++ rest) = .ok (a, rest) :=
  (hread _ _ _).mpr ⟨[], value, written, spaces_nil, hvalue, hmeaning, rfl⟩

/-- Where a value that means something ends is settled by the text: of two such values at the
    beginning of one text, neither goes on behind the other. -/
theorem Reads.eq_of_append_eq {α : Type} {read : Reader α} {meaning? : Value → Option α}
    (hread : Reads read meaning?) {value value' : Value} {written written' rest rest' : List Char}
    {a a' : α} (hvalue : IsValue value written) (hmeaning : meaning? value = some a)
    (hvalue' : IsValue value' written') (hmeaning' : meaning? value' = some a')
    (h : written ++ rest = written' ++ rest') : rest = rest' := by
  have hfirst := hread.of_isValue hvalue hmeaning rest
  rw [h, hread.of_isValue hvalue' hmeaning' rest'] at hfirst
  cases hfirst
  rfl

/-- A reader of which the values are changed afterwards. -/
theorem Reads.map {α β : Type} {read : Reader α} {meaning? : Value → Option α}
    (hread : Reads read meaning?) (f : α → β) :
    Reads (fun text => (read text).map fun (a, rest) => (f a, rest))
      fun value => (meaning? value).map f := by
  intro text b rest
  simp only [Except.map_eq_ok_iff, Prod.mk.injEq, Option.map_eq_some_iff, Prod.exists]
  constructor
  · rintro ⟨a, rest, h, rfl, rfl⟩
    obtain ⟨space, value, written, hspace, hvalue, hmeaning, rfl⟩ := (hread _ _ _).mp h
    exact ⟨space, value, written, hspace, hvalue, ⟨a, hmeaning, rfl⟩, rfl⟩
  · rintro ⟨space, value, written, hspace, hvalue, ⟨a, hmeaning, rfl⟩, rfl⟩
    refine ⟨a, rest, ?_, rfl, rfl⟩
    exact (hread _ _ _).mpr ⟨space, value, written, hspace, hvalue, hmeaning, rfl⟩

/-! ## Simple values -/

/-- The truth value. -/
def boolean? : Value → Option Bool
  | .boolean value => some value
  | _ => none

/-- The text that a string stands for. -/
def text? : Value → Option (List Char)
  | .string pieces => unescape? pieces
  | _ => none

/-- Nothing, or what the value means. -/
def option? {α : Type} (meaning? : Value → Option α) : Value → Option (Option α)
  | .null => some none
  | value => (meaning? value).map some

/-- What the elements of a list mean. -/
def list? {α : Type} (meaning? : Value → Option α) : Value → Option (List α)
  | .list elements => elements.mapM meaning?
  | _ => none

theorem option?_of_ne {α : Type} (meaning? : Value → Option α) {value : Value}
    (h : value ≠ .null) : option? meaning? value = (meaning? value).map some := by
  cases value <;> first | rfl | exact absurd rfl h

theorem reads_readBool : Reads readBool boolean? := by
  intro text a rest
  obtain ⟨space, hspace, htext⟩ := exists_skipSpace text
  constructor
  · intro h
    unfold readBool at h
    split at h
    · cases h
    · next hcons =>
      obtain ⟨rest, hword, heq⟩ := Except.map_eq_ok_iff.mp h
      cases heq
      rw [readWord_eq_ok_iff.mp hword] at hcons
      exact ⟨space, .boolean true, _, hspace, .true, rfl, by rw [htext, hcons]; rfl⟩
    · next hcons =>
      obtain ⟨rest, hword, heq⟩ := Except.map_eq_ok_iff.mp h
      cases heq
      rw [readWord_eq_ok_iff.mp hword] at hcons
      exact ⟨space, .boolean false, _, hspace, .false, rfl, by rw [htext, hcons]; rfl⟩
    · cases h
  · rintro ⟨space, value, written, hspace, hvalue, hmeaning, rfl⟩
    rw [readBool, skipSpace_append hspace]
    cases hvalue with
    | true =>
      cases hmeaning
      rfl
    | false =>
      cases hmeaning
      rfl
    | _ => cases hmeaning

theorem reads_readText (expected : String) : Reads (readText expected) text? := by
  intro text a rest
  obtain ⟨space, hspace, htext⟩ := exists_skipSpace text
  constructor
  · intro h
    unfold readText at h
    split at h
    · cases h
    · next hcons =>
      obtain ⟨pieces, written, hpieces, hmeaning, rfl⟩ := readString_sound h
      exact ⟨space, .string pieces, _, hspace, .string hpieces, hmeaning,
        by rw [htext, hcons]; simp⟩
    · cases h
  · rintro ⟨space, value, written, hspace, hvalue, hmeaning, rfl⟩
    rw [readText, skipSpace_append hspace]
    cases hvalue with
    | string hpieces =>
      simpa [skipSpace_cons_of_not, isSpace] using readString_complete hpieces hmeaning rest
    | _ => cases hmeaning

/-- Only one value begins like this. -/
theorem IsValue.eq_null {value : Value} {rest : List Char} (h : IsValue value ('n' :: rest)) :
    value = .null := by
  generalize hwritten : 'n' :: rest = written at h
  cases h with
  | null => rfl
  | number hnumber =>
    obtain ⟨c, rest, rfl, hc⟩ := hnumber.exists_cons
    cases hwritten
    simp at hc
  | _ => cases hwritten

theorem reads_readOption {α : Type} {read : Reader α} {meaning? : Value → Option α}
    (hread : Reads read meaning?) : Reads (readOption read) (option? meaning?) := by
  intro text a rest
  obtain ⟨space, hspace, htext⟩ := exists_skipSpace text
  constructor
  · intro h
    unfold readOption at h
    split at h
    · next hcons =>
      obtain ⟨rest, hword, heq⟩ := Except.map_eq_ok_iff.mp h
      cases heq
      rw [readWord_eq_ok_iff.mp hword] at hcons
      exact ⟨space, .null, _, hspace, .null, rfl, by rw [htext, hcons]; rfl⟩
    · next hother =>
      obtain ⟨⟨b, rest⟩, hvalue, heq⟩ := Except.map_eq_ok_iff.mp h
      cases heq
      obtain ⟨space', value, written, hspace', hvalue, hmeaning, hbehind⟩ :=
        (hread _ _ _).mp hvalue
      refine ⟨space ++ space', value, written, hspace.append hspace', hvalue, ?_,
        by rw [htext, hbehind, List.append_assoc]⟩
      rw [option?_of_ne meaning?, hmeaning]
      · rfl
      · -- The word would have been taken for nothing.
        rintro rfl
        cases hvalue
        have hskip := congrArg skipSpace hbehind
        rw [skipSpace_append hspace', skipSpace_skipSpace] at hskip
        exact hother _ hskip
  · rintro ⟨space, value, written, hspace, hvalue, hmeaning, rfl⟩
    by_cases hnull : value = .null
    · subst hnull
      cases hvalue
      cases hmeaning
      rw [readOption, skipSpace_append hspace]
      rfl
    · rw [option?_of_ne meaning? hnull, Option.map_eq_some_iff] at hmeaning
      obtain ⟨b, hb, rfl⟩ := hmeaning
      have hvalueRead := hread.of_isValue hvalue hb rest
      obtain ⟨c, behind, rfl, hc, -, -⟩ := hvalue.exists_cons
      have hne : c ≠ 'n' := by
        rintro rfl
        exact hnull hvalue.eq_null
      rw [List.cons_append] at hvalueRead ⊢
      rw [readOption, skipSpace_append hspace, skipSpace_cons_of_not hc]
      simp [hne, hvalueRead, Except.map]

/-! ## Lists -/

theorem nextElement_eq_last_iff {isFirst : Bool} {text rest : List Char} :
    nextElement isFirst text = .ok (.last rest) ↔
      ∃ space, Spaces space ∧ text = space ++ ']' :: rest := by
  rw [← skipSpace_eq_cons_iff (by decide)]
  unfold nextElement
  split
  · next hnil => simp [hnil]
  · next c behind hcons =>
    rw [hcons]
    by_cases hc : c = ']'
    · simp [hc]
    · -- Whatever else comes next, it is not the end.
      simp only [hc, if_false]
      split
      · simp [hc]
      split
      · split
        · simp [hc]
        · split <;> simp [hc]
      · simp [hc]

/-- The first element stands behind white space. -/
theorem nextElement_true_sound {text rest : List Char}
    (h : nextElement true text = .ok (.more rest)) :
    ∃ space, Spaces space ∧ text = space ++ rest := by
  obtain ⟨space, hspace, htext⟩ := exists_skipSpace text
  refine ⟨space, hspace, ?_⟩
  unfold nextElement at h
  split at h
  · cases h
  · next c behind hcons =>
    split at h
    · cases h
    · cases h
      rw [htext, hcons]

theorem nextElement_true_complete {space written : List Char} {value : Value}
    (hspace : Spaces space) (hvalue : IsValue value written) (rest : List Char) :
    nextElement true (space ++ (written ++ rest)) = .ok (.more (written ++ rest)) := by
  obtain ⟨c, behind, rfl, hc, hclosing, -⟩ := hvalue.exists_cons
  rw [nextElement, skipSpace_append hspace, List.cons_append, skipSpace_cons_of_not hc]
  simp [hclosing]

/-- Any other element stands behind a comma. -/
theorem nextElement_false_sound {text rest : List Char}
    (h : nextElement false text = .ok (.more rest)) :
    ∃ space space', Spaces space ∧ Spaces space' ∧ text = space ++ ',' :: (space' ++ rest) := by
  obtain ⟨space, hspace, htext⟩ := exists_skipSpace text
  unfold nextElement at h
  split at h
  · cases h
  · next c behind hcons =>
    obtain ⟨space', hspace', hbehind⟩ := exists_skipSpace behind
    refine ⟨space, space', hspace, hspace', ?_⟩
    split at h
    · cases h
    simp only [Bool.false_eq_true, if_false] at h
    split at h
    · next hcomma =>
      split at h
      · cases h
      · next hcons' =>
        split at h
        · cases h
        · cases h
          rw [htext, hcons, hcomma, ← hcons', ← hbehind]
    · cases h

theorem nextElement_false_complete {space space' written : List Char} {value : Value}
    (hspace : Spaces space) (hspace' : Spaces space') (hvalue : IsValue value written)
    (rest : List Char) :
    nextElement false (space ++ ',' :: (space' ++ (written ++ rest))) =
      .ok (.more (written ++ rest)) := by
  obtain ⟨c, behind, rfl, hc, hclosing, -⟩ := hvalue.exists_cons
  rw [nextElement, skipSpace_append hspace, skipSpace_cons_of_not (by decide)]
  simp [skipSpace_append hspace', skipSpace_cons_of_not hc, hclosing]

section
variable {α : Type} {read : Reader α} {meaning? : Value → Option α}
  (hread : Reads read meaning?)
include hread

theorem readElements_sound {bound : Nat} {text rest : List Char} {as : List α}
    (h : readElements read bound false text = .ok (as, rest)) :
    ∃ elements written, Tail IsValue ']' elements written ∧ elements.mapM meaning? = some as ∧
      text = written ++ rest := by
  induction bound generalizing text as with
  | zero => cases h
  | succ bound ih =>
    rw [readElements] at h
    split at h
    · cases h
    · next hlast =>
      cases h
      obtain ⟨space, hspace, rfl⟩ := nextElement_eq_last_iff.mp hlast
      exact ⟨[], _, .close hspace, rfl, by simp⟩
    · next text' hmore =>
      obtain ⟨space, space', hspace, hspace', rfl⟩ := nextElement_false_sound hmore
      split at h
      · cases h
      · next a behind hfirst =>
        obtain ⟨⟨others, rest⟩, hothers, heq⟩ := Except.map_eq_ok_iff.mp h
        cases heq
        obtain ⟨space'', value, written, hspace'', hvalue, hmeaning, rfl⟩ :=
          (hread _ _ _).mp hfirst
        obtain ⟨elements, tail, htail, hmeanings, rfl⟩ := ih hothers
        refine ⟨value :: elements, _, .item hspace (hspace'.append hspace'') hvalue htail, ?_,
          by simp⟩
        simp [List.mapM_cons, hmeaning, hmeanings]

theorem readElements_complete {bound : Nat} {elements : List Value} {written : List Char}
    {as : List α} (h : Tail IsValue ']' elements written)
    (hmeanings : elements.mapM meaning? = some as) (hbound : written.length < bound)
    (rest : List Char) : readElements read bound false (written ++ rest) = .ok (as, rest) := by
  induction h generalizing bound as with
  | @close space hspace =>
    obtain ⟨bound, rfl⟩ := Nat.exists_eq_succ_of_ne_zero (Nat.ne_zero_of_lt hbound)
    cases hmeanings
    have hlast : nextElement false (space ++ [']'] ++ rest) = .ok (.last rest) :=
      nextElement_eq_last_iff.mpr ⟨space, hspace, by simp⟩
    rw [readElements, hlast]
    rfl
  | @item space space' written tail value elements hspace hspace' hvalue htail ih =>
    obtain ⟨bound, rfl⟩ := Nat.exists_eq_succ_of_ne_zero (Nat.ne_zero_of_lt hbound)
    simp only [List.mapM_cons, Option.bind_eq_bind, Option.bind_eq_some_iff, Option.pure_def,
      Option.some.injEq] at hmeanings
    obtain ⟨a, hmeaning, others, hothers, rfl⟩ := hmeanings
    simp only [List.length_append, List.length_cons] at hbound
    have hfirst := hread.of_isValue hvalue hmeaning (tail ++ rest)
    have hmore := nextElement_false_complete hspace hspace' hvalue (tail ++ rest)
    -- The comma alone makes the rest shorter, so the bound is large enough for it.
    have hrest := ih hothers (show tail.length < bound by omega)
    simp only [List.append_assoc, List.cons_append]
    rw [readElements, hmore]
    simp only [hfirst, hrest]
    rfl

/-- The elements behind the opening bracket. -/
theorem readElements_true_iff {bound : Nat} {text rest : List Char} {as : List α}
    (hbound : text.length ≤ bound) :
    readElements read (bound + 1) true text = .ok (as, rest) ↔
      ∃ elements body, Body IsValue ']' elements body ∧ elements.mapM meaning? = some as ∧
        text = body ++ rest := by
  rw [readElements]
  constructor
  · intro h
    split at h
    · cases h
    · next hlast =>
      cases h
      obtain ⟨space, hspace, rfl⟩ := nextElement_eq_last_iff.mp hlast
      exact ⟨[], _, .empty hspace, rfl, by simp⟩
    · next hmore =>
      obtain ⟨space, hspace, rfl⟩ := nextElement_true_sound hmore
      split at h
      · cases h
      · next a behind hfirst =>
        obtain ⟨⟨others, rest⟩, hothers, heq⟩ := Except.map_eq_ok_iff.mp h
        cases heq
        obtain ⟨space', value, written, hspace', hvalue, hmeaning, rfl⟩ :=
          (hread _ _ _).mp hfirst
        obtain ⟨elements, tail, htail, hmeanings, rfl⟩ := readElements_sound hread hothers
        refine ⟨value :: elements, _, .items (hspace.append hspace') hvalue htail, ?_, by simp⟩
        simp [List.mapM_cons, hmeaning, hmeanings]
  · rintro ⟨elements, body, hbody, hmeanings, rfl⟩
    cases hbody with
    | @empty space hspace =>
      cases hmeanings
      have hlast : nextElement true (space ++ [']'] ++ rest) = .ok (.last rest) :=
        nextElement_eq_last_iff.mpr ⟨space, hspace, by simp⟩
      rw [hlast]
      rfl
    | @items space written tail value elements hspace hvalue htail =>
      simp only [List.mapM_cons, Option.bind_eq_bind, Option.bind_eq_some_iff, Option.pure_def,
        Option.some.injEq] at hmeanings
      obtain ⟨a, hmeaning, others, hothers, rfl⟩ := hmeanings
      simp only [List.length_append] at hbound
      have hfirst := hread.of_isValue hvalue hmeaning (tail ++ rest)
      have hmore := nextElement_true_complete hspace hvalue (tail ++ rest)
      -- The first element has at least one character, so the bound is large enough.
      have hlength : 0 < written.length := hvalue.length_pos
      have hrest := readElements_complete hread htail hothers
        (show tail.length < bound by omega) rest
      simp only [List.append_assoc, hmore, hfirst, hrest]
      rfl

end

theorem reads_readList {α : Type} {read : Reader α} {meaning? : Value → Option α}
    (hread : Reads read meaning?) : Reads (readList read) (list? meaning?) := by
  intro text as rest
  obtain ⟨space, hspace, htext⟩ := exists_skipSpace text
  constructor
  · intro h
    unfold readList at h
    split at h
    · cases h
    · next inner hcons =>
      obtain ⟨elements, body, hbody, hmeanings, rfl⟩ :=
        (readElements_true_iff hread (Nat.le_refl _)).mp h
      exact ⟨space, .list elements, _, hspace, .list hbody, hmeanings, by rw [htext, hcons]; rfl⟩
    · cases h
  · rintro ⟨space, value, written, hspace, hvalue, hmeaning, rfl⟩
    cases hvalue with
    | list hbody =>
      rw [readList, skipSpace_append hspace, List.cons_append,
        skipSpace_cons_of_not (by decide)]
      exact (readElements_true_iff hread (Nat.le_refl _)).mpr ⟨_, _, hbody, hmeaning, rfl⟩
    | _ => cases hmeaning

/-! ## Documents -/

theorem skipSpace_eq_nil_iff {text : List Char} : skipSpace text = [] ↔ Spaces text := by
  simp only [skipSpace, List.dropWhile_eq_nil_iff, isSpace_iff, Spaces]

/-- A document is one value that means something. -/
theorem readDocument_eq_ok_iff {α : Type} {read : Reader α} {meaning? : Value → Option α}
    (hread : Reads read meaning?) {document : List Char} {a : α} :
    readDocument read document = .ok a ↔
      ∃ value, IsDocument value document ∧ meaning? value = some a := by
  constructor
  · intro h
    unfold readDocument at h
    split at h
    · cases h
    · next hfirst =>
      split at h
      · next hrest =>
        cases h
        obtain ⟨space, value, written, hspace, hvalue, hmeaning, rfl⟩ := (hread _ _ _).mp hfirst
        exact ⟨value, ⟨space, written, _, hspace, hvalue, skipSpace_eq_nil_iff.mp hrest, rfl⟩,
          hmeaning⟩
      · cases h
  · rintro ⟨value, ⟨before, written, after, hbefore, hvalue, hafter, rfl⟩, hmeaning⟩
    have h := (hread (before ++ (written ++ after)) a after).mpr
      ⟨before, value, written, hbefore, hvalue, hmeaning, rfl⟩
    rw [readDocument, h]
    simp [skipSpace_eq_nil_iff.mpr hafter]

end TestCoverage.Json
