/-
  TestCoverage.Proofs.Json.Steps

  One step of passing over a value: what a step may be, and the steps that the grammar calls
  for.
-/
import TestCoverage.Proofs.Json.Scalars

namespace TestCoverage.Json

/-! ## Containers -/

/-- The bracket that opens a container. -/
def Container.opening : Container → Char
  | .list => '['
  | .object => '\x7b'

/-- The bracket that closes a container. -/
def Container.closing : Container → Char
  | .list => ']'
  | .object => '\x7d'

/-- What a container contains. -/
def Container.inside : Container → Expecting
  | .list => .value
  | .object => .key

/-! ## One step -/

/-- What a step may be: the text begins with what it passes over. -/
inductive Step : Expecting → List Container → List Char →
    Expecting → List Container → List Char → Prop where
  | scalar {opened : List Container} {value : Value} {space written rest : List Char}
      (hspace : Spaces space) (hvalue : IsValue value written) :
      Step .value opened (space ++ (written ++ rest)) .separator opened rest
  | empty (container : Container) {opened : List Container} {space space' rest : List Char}
      (hspace : Spaces space) (hspace' : Spaces space') :
      Step .value opened (space ++ container.opening :: (space' ++ container.closing :: rest))
        .separator opened rest
  | enter (container : Container) {opened : List Container} {space space' rest : List Char}
      (hspace : Spaces space) (hspace' : Spaces space') :
      Step .value opened (space ++ container.opening :: (space' ++ rest))
        container.inside (container :: opened) rest
  | key {opened : List Container} {pieces : List Piece} {space name space' rest : List Char}
      (hspace : Spaces space) (hname : IsPieces pieces name) (hspace' : Spaces space') :
      Step .key opened (space ++ '"' :: (name ++ '"' :: (space' ++ ':' :: rest))) .value opened
        rest
  | comma {container : Container} {outer : List Container} {space rest : List Char}
      (hspace : Spaces space) :
      Step .separator (container :: outer) (space ++ ',' :: rest)
        container.inside (container :: outer) rest
  | leave {container : Container} {outer : List Container} {space rest : List Char}
      (hspace : Spaces space) :
      Step .separator (container :: outer) (space ++ container.closing :: rest)
        .separator outer rest

/-- A step where a value is expected. -/
theorem step_of_value {expecting : Expecting} {opened opened' : List Container}
    {text rest : List Char} (h : skipStep .value opened text = .ok (expecting, opened', rest)) :
    Step .value opened text expecting opened' rest := by
  obtain ⟨space, hspace, htext⟩ := exists_skipSpace text
  unfold skipStep at h
  dsimp only at h
  split at h
  · next inner hlist =>
    obtain ⟨space', hspace', hinner⟩ := exists_skipSpace inner
    rw [hlist] at htext
    split at h
    · cases h
    · next c behind hcons =>
      rw [hcons] at hinner
      rw [htext, hinner]
      split at h
      · next hc =>
        cases h
        rw [hc]
        exact .empty .list hspace hspace'
      · cases h
        exact .enter .list hspace hspace'
  · next inner hobject =>
    obtain ⟨space', hspace', hinner⟩ := exists_skipSpace inner
    rw [hobject] at htext
    split at h
    · cases h
    · next c behind hcons =>
      rw [hcons] at hinner
      rw [htext, hinner]
      split at h
      · next hc =>
        cases h
        rw [hc]
        exact .empty .object hspace hspace'
      · cases h
        exact .enter .object hspace hspace'
  · obtain ⟨rest', hscalar, heq⟩ := Except.map_eq_ok_iff.mp h
    cases heq
    obtain ⟨value, written, hvalue, hwritten⟩ := skipScalar_sound hscalar
    rw [htext, hwritten]
    exact .scalar hspace hvalue

/-- A step between two items. -/
theorem step_of_separator {expecting : Expecting} {container : Container}
    {outer opened : List Container} {text rest : List Char}
    (h : skipStep .separator (container :: outer) text = .ok (expecting, opened, rest)) :
    Step .separator (container :: outer) text expecting opened rest := by
  obtain ⟨space, hspace, htext⟩ := exists_skipSpace text
  -- Both containers are closed and continued alike, but for their own bracket.
  cases container
  all_goals
    simp only [skipStep] at h
    split at h
    · cases h
    next c behind hcons =>
    rw [hcons] at htext
    subst htext
    split at h
    · next hc =>
      cases h
      rw [hc]
      exact .comma hspace
    split at h
    · next hc =>
      cases h
      rw [hc]
      exact .leave hspace
    · cases h

/-- No step is anything else. -/
theorem step_of_skipStep {expecting expecting' : Expecting} {opened opened' : List Container}
    {text rest : List Char} (hgoes : ¬ (expecting = .separator ∧ opened = []))
    (h : skipStep expecting opened text = .ok (expecting', opened', rest)) :
    Step expecting opened text expecting' opened' rest := by
  cases expecting with
  | value => exact step_of_value h
  | key =>
    obtain ⟨rest', hkey, heq⟩ := Except.map_eq_ok_iff.mp h
    cases heq
    obtain ⟨space, pieces, name, space', hspace, hname, hspace', rfl⟩ :=
      skipKey_eq_ok_iff.mp hkey
    exact .key hspace hname hspace'
  | separator =>
    cases opened with
    | nil => exact absurd ⟨rfl, rfl⟩ hgoes
    | cons container outer => exact step_of_separator h

/-! ## The steps that there are -/

section
variable (opened : List Container) {space space' : List Char} (hspace : Spaces space)
include hspace

theorem skipStep_scalar {value : Value} {written rest : List Char}
    (hvalue : IsValue value written) (hscalar : value.IsScalar) (hrest : Stops rest) :
    skipStep .value opened (space ++ (written ++ rest)) = .ok (.separator, opened, rest) := by
  have hskip := skipScalar_complete hvalue hscalar hrest
  obtain ⟨c, behind, rfl, hc, -, -⟩ := hvalue.exists_cons
  -- The value is passed over as a scalar, so it is not taken for a container.
  have hopening : c ≠ '[' ∧ c ≠ '\x7b' := by
    constructor <;> rintro rfl <;> simp [skipScalar] at hskip
  rw [List.cons_append] at hskip ⊢
  simp [skipStep, skipSpace_append hspace, hc, hopening, hskip, Except.map]

theorem skipStep_empty (container : Container) (hspace' : Spaces space') (rest : List Char) :
    skipStep .value opened
        (space ++ container.opening :: (space' ++ container.closing :: rest)) =
      .ok (.separator, opened, rest) := by
  cases container <;>
    simp [skipStep, Container.opening, Container.closing, skipSpace_append hspace,
      skipSpace_append hspace', isSpace]

theorem skipStep_enter {container : Container} (hspace' : Spaces space') {c : Char}
    (hc : ¬ isSpace c) (hclosing : c ≠ container.closing) (rest : List Char) :
    skipStep .value opened (space ++ container.opening :: (space' ++ c :: rest)) =
      .ok (container.inside, container :: opened, c :: rest) := by
  cases container <;>
    simp_all [skipStep, Container.opening, Container.closing, Container.inside,
      skipSpace_append hspace, skipSpace_append hspace', isSpace]

theorem skipStep_comma (container : Container) (rest : List Char) :
    skipStep .separator (container :: opened) (space ++ ',' :: rest) =
      .ok (container.inside, container :: opened, rest) := by
  cases container <;>
    simp [skipStep, Container.inside, skipSpace_append hspace, isSpace]

theorem skipStep_leave (container : Container) (rest : List Char) :
    skipStep .separator (container :: opened) (space ++ container.closing :: rest) =
      .ok (.separator, opened, rest) := by
  cases container <;>
    simp [skipStep, Container.closing, skipSpace_append hspace, isSpace]

end

end TestCoverage.Json
