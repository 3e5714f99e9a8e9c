/-
  TestCoverage.Proofs.Json.Unambiguous

  A text is at most one value.  Where an item ends is known from passing over it, so two values
  of one text are compared from left to right: the first character tells the kind, and the
  items of a container are the same one by one.
-/
import TestCoverage.Proofs.Json.Ignored

namespace TestCoverage.Json

/-! ## Strings -/

/-- Two pieces at the beginning of a text are the same, and end at the same place. -/
theorem IsPiece.eq_of_append_eq {piece piece' : Piece} {written written' rest rest' : List Char}
    (h : IsPiece piece written) (h' : IsPiece piece' written')
    (heq : written ++ rest = written' ++ rest') : piece = piece' ∧ rest = rest' := by
  cases h with
  | plain _ hbackslash =>
    cases h' with
    | plain => simpa using heq
    | _ => exact absurd (List.cons.inj heq).1 hbackslash
  | escape hescape =>
    cases h' with
    | plain _ hbackslash => exact absurd (List.cons.inj heq).1.symm hbackslash
    | escape hescape' =>
      obtain ⟨rfl, rfl⟩ : _ = _ ∧ rest = rest' := by simpa using heq
      have hsame := letterEscape?_eq_some_iff.mpr hescape
      rw [letterEscape?_eq_some_iff.mpr hescape', Option.some.injEq] at hsame
      exact ⟨congrArg Piece.char hsame.symm, rfl⟩
    | unit =>
      obtain ⟨rfl, -⟩ : _ = 'u' ∧ _ := by simpa using heq
      exact absurd hescape not_mem_escapes_u
  | unit hd₁ hd₂ hd₃ hd₄ =>
    cases h' with
    | plain _ hbackslash => exact absurd (List.cons.inj heq).1.symm hbackslash
    | escape hescape' =>
      obtain ⟨rfl, -⟩ : 'u' = _ ∧ _ := by simpa using heq
      exact absurd hescape' not_mem_escapes_u
    | unit hd₁' hd₂' hd₃' hd₄' =>
      obtain ⟨rfl, rfl, rfl, rfl, rfl⟩ : _ = _ ∧ _ = _ ∧ _ = _ ∧ _ = _ ∧ rest = rest' := by
        simpa using heq
      have hsame := hexUnit?_eq_some_iff.mpr (IsPiece.unit hd₁ hd₂ hd₃ hd₄)
      rw [hexUnit?_eq_some_iff.mpr (IsPiece.unit hd₁' hd₂' hd₃' hd₄'), Option.some.injEq] at hsame
      exact ⟨congrArg Piece.unit hsame.symm, rfl⟩

theorem IsPiece.ne_nil {piece : Piece} {written : List Char} (h : IsPiece piece written) :
    written ≠ [] := by
  cases h <;> exact List.cons_ne_nil _ _

theorem IsPieces.unique {pieces pieces' : List Piece} {written : List Char}
    (h : IsPieces pieces written) (h' : IsPieces pieces' written) : pieces = pieces' := by
  induction h generalizing pieces' with
  | nil =>
    generalize hwritten : ([] : List Char) = written at h'
    cases h' with
    | nil => rfl
    | cons hpiece => exact absurd (List.append_eq_nil_iff.mp hwritten.symm).1 hpiece.ne_nil
  | @cons piece pieces written rest hpiece _ ih =>
    generalize hwritten : written ++ rest = text at h'
    cases h' with
    | nil => exact absurd (List.append_eq_nil_iff.mp hwritten).1 hpiece.ne_nil
    | cons hpiece' hpieces' =>
      obtain ⟨rfl, rfl⟩ := hpiece.eq_of_append_eq hpiece' hwritten
      rw [ih hpieces']

/-- A string ends at its first quote that is not part of a piece. -/
theorem IsPieces.eq_of_append_eq {pieces pieces' : List Piece}
    {written written' rest rest' : List Char} (h : IsPieces pieces written)
    (h' : IsPieces pieces' written') (heq : written ++ '"' :: rest = written' ++ '"' :: rest') :
    pieces = pieces' ∧ rest = rest' := by
  have hend := skipString_complete h rest
  rw [heq, skipString_complete h' rest', Except.ok.injEq] at hend
  subst hend
  obtain rfl := List.append_cancel_right heq
  exact ⟨h.unique h', rfl⟩

/-! ## Items between brackets -/

/-- White space ends at the first character that is none. -/
theorem spaces_append_inj {space space' rest rest' : List Char} {c c' : Char}
    (hspace : Spaces space) (hspace' : Spaces space') (hc : ¬ isSpace c) (hc' : ¬ isSpace c')
    (heq : space ++ c :: rest = space' ++ c' :: rest') : c = c' ∧ rest = rest' := by
  have hskip := congrArg skipSpace heq
  rw [skipSpace_append hspace, skipSpace_append hspace', skipSpace_cons_of_not hc,
    skipSpace_cons_of_not hc'] at hskip
  exact List.cons.inj hskip

/-- Two items at the beginning of a text end at the same place. -/
theorem PassedOver.eq_of_append_eq {expecting : Expecting}
    {written written' rest rest' : List Char} (h : PassedOver expecting written)
    (h' : PassedOver expecting written') (hrest : Stops rest) (hrest' : Stops rest')
    (heq : written ++ rest = written' ++ rest') : written = written' ∧ rest = rest' := by
  obtain ⟨m, -, hruns⟩ := h [] [] rest spaces_nil hrest
  obtain ⟨n, -, hruns'⟩ := h' [] [] rest' spaces_nil hrest'
  have hend := skipSteps_of_runs hruns (show m < m + n + 1 by omega)
  rw [List.nil_append, heq, ← List.nil_append (written' ++ rest'),
    skipSteps_of_runs hruns' (show n < m + n + 1 by omega), Except.ok.injEq] at hend
  subst hend
  exact ⟨List.append_cancel_right heq, rfl⟩

theorem Container.closing_not_space (container : Container) : ¬ isSpace container.closing := by
  cases container <;> decide

theorem Container.closing_ne_comma (container : Container) : container.closing ≠ ',' := by
  cases container <;> decide

theorem Tail.stops_alone {α : Type} {Item : α → List Char → Prop} {container : Container}
    {xs : List α} {written : List Char} (h : Tail Item container.closing xs written) :
    Stops written := by
  simpa using h.stops container []

/-- What makes the items of a container, as far as they are shorter than the bound, come apart:
    each of them can be passed over, begins unlike white space and the closing bracket, and is
    the only one that is written as it is. -/
structure Separable {α : Type} (Item : α → List Char → Prop) (container : Container)
    (bound : Nat) : Prop where
  passedOver : ∀ x written, Item x written → PassedOver container.inside written
  exists_cons : ∀ x written, Item x written →
    ∃ c rest, written = c :: rest ∧ ¬ isSpace c ∧ c ≠ container.closing
  unique : ∀ x y written, written.length < bound → Item x written → Item y written → x = y

section
variable {α : Type} {Item : α → List Char → Prop} {container : Container} {bound : Nat}
  (hitems : Separable Item container bound)
include hitems

/-- The item behind white space is settled by the text, and so is where it ends. -/
theorem Separable.eq_of_spaces_append {space space' written written' rest rest' : List Char}
    {x y : α} (hspace : Spaces space) (hspace' : Spaces space') (hx : Item x written)
    (hy : Item y written') (hlength : written.length < bound) (hrest : Stops rest)
    (hrest' : Stops rest')
    (heq : space ++ (written ++ rest) = space' ++ (written' ++ rest')) : x = y ∧ rest = rest' := by
  have hbehind : written ++ rest = written' ++ rest' := by
    obtain ⟨c, behind, rfl, hc, -⟩ := hitems.exists_cons x written hx
    obtain ⟨c', behind', rfl, hc', -⟩ := hitems.exists_cons y written' hy
    obtain ⟨rfl, hrests⟩ := spaces_append_inj hspace hspace' hc hc' heq
    exact congrArg (c :: ·) hrests
  obtain ⟨rfl, rfl⟩ := (hitems.passedOver x written hx).eq_of_append_eq
    (hitems.passedOver y written' hy) hrest hrest' hbehind
  exact ⟨hitems.unique x y written hlength hx hy, rfl⟩

/-- An item does not begin like the end of its container. -/
theorem Separable.ne_of_closing {space space' written rest behind : List Char} {x : α}
    (hspace : Spaces space) (hspace' : Spaces space') (hx : Item x written) :
    space ++ container.closing :: behind ≠ space' ++ (written ++ rest) := by
  intro heq
  obtain ⟨c, others, rfl, hc, hclosing⟩ := hitems.exists_cons x written hx
  exact hclosing (spaces_append_inj hspace hspace' container.closing_not_space hc heq).1.symm

theorem Separable.tail_unique {xs ys : List α} {written : List Char}
    (h : Tail Item container.closing xs written) (h' : Tail Item container.closing ys written)
    (hlength : written.length < bound) : xs = ys := by
  have hcomma : ¬ isSpace ',' := by decide
  have hclosing := container.closing_not_space
  induction h generalizing ys with
  | @close space hspace =>
    generalize htext : space ++ [container.closing] = text at h'
    cases h' with
    | close => rfl
    | item hspace' =>
      exact absurd (spaces_append_inj hspace hspace' hclosing hcomma htext).1
        container.closing_ne_comma
  | @item space space' written rest x xs hspace hspace' hx htail ih =>
    generalize htext : space ++ ',' :: (space' ++ (written ++ rest)) = text at h'
    cases h' with
    | close hspace₁ =>
      exact absurd (spaces_append_inj hspace₁ hspace hclosing hcomma htext.symm).1
        container.closing_ne_comma
    | item hspace₁ hspace₁' hy htail' =>
      have hbehind := (spaces_append_inj hspace hspace₁ hcomma hcomma htext).2
      simp only [List.length_append, List.length_cons] at hlength
      obtain ⟨rfl, rfl⟩ := hitems.eq_of_spaces_append hspace' hspace₁' hx hy (by omega)
        htail.stops_alone htail'.stops_alone hbehind
      rw [ih htail' (by omega)]

theorem Separable.body_unique {xs ys : List α} {body : List Char}
    (h : Body Item container.closing xs body) (h' : Body Item container.closing ys body)
    (hlength : body.length < bound) : xs = ys := by
  cases h with
  | @empty space hspace =>
    generalize htext : space ++ [container.closing] = text at h'
    cases h' with
    | empty => rfl
    | items hspace' hy => exact absurd htext (hitems.ne_of_closing hspace hspace' hy)
  | @items space written rest x xs hspace hx htail =>
    generalize htext : space ++ (written ++ rest) = text at h'
    cases h' with
    | empty hspace' => exact absurd htext.symm (hitems.ne_of_closing hspace' hspace hx)
    | items hspace' hy htail' =>
      simp only [List.length_append] at hlength
      obtain ⟨rfl, rfl⟩ := hitems.eq_of_spaces_append hspace hspace' hx hy (by omega)
        htail.stops_alone htail'.stops_alone htext
      rw [hitems.tail_unique htail htail' (by omega)]

end

/-! ## Values -/

/-- The first character of a value tells of what kind it is. -/
theorem IsValue.cases_first {value : Value} {c : Char} {rest : List Char}
    (h : IsValue value (c :: rest)) :
    (c = 'n' ∧ value = .null) ∨ (c = 't' ∧ value = .boolean Bool.true) ∨
      (c = 'f' ∧ value = .boolean Bool.false) ∨
      ((c = '-' ∨ c.isDigit) ∧ value = .number (c :: rest)) ∨
      (c = '"' ∧ ∃ pieces written, value = .string pieces ∧ IsPieces pieces written ∧
        rest = written ++ ['"']) ∨
      (c = '[' ∧ ∃ elements, value = .list elements ∧ Body IsValue ']' elements rest) ∨
      (c = '\x7b' ∧ ∃ members, value = .object members ∧ Body IsMember '\x7d' members rest) := by
  generalize hwritten : c :: rest = written at h
  cases h with
  | number hnumber =>
    obtain ⟨d, behind, rfl, hd⟩ := hnumber.exists_cons
    cases hwritten
    simp [hd]
  | _ => cases hwritten; simp_all

/-- A member is the only one that is written as it is if its value is. -/
theorem IsMember.unique {member member' : Member} {written : List Char}
    (hvalue : ∀ value value' own, own.length < written.length → IsValue value own →
      IsValue value' own → value = value')
    (h : IsMember member written) (h' : IsMember member' written) : member = member' := by
  cases h with
  | @colon pieces value name space space' own hname hspace hspace' hown =>
    generalize htext : '"' :: (name ++ '"' :: (space ++ ':' :: (space' ++ own))) = text at h'
    cases h' with
    | colon hname₁ hspace₁ hspace₁' hown₁ =>
      obtain ⟨rfl, hcolon⟩ := hname.eq_of_append_eq hname₁ (List.cons.inj htext).2
      have hcolonChar : ¬ isSpace ':' := by decide
      obtain ⟨-, hbehind⟩ := spaces_append_inj hspace hspace₁ hcolonChar hcolonChar hcolon
      obtain ⟨c, behind, rfl, hc, -⟩ := hown.exists_cons
      obtain ⟨c₁, behind₁, rfl, hc₁, -⟩ := hown₁.exists_cons
      obtain ⟨rfl, rfl⟩ := spaces_append_inj hspace' hspace₁' hc hc₁ hbehind
      rw [hvalue _ _ _ (by simp; omega) hown hown₁]

theorem passedOver_value (value : Value) (written : List Char) (h : IsValue value written) :
    PassedOver .value written :=
  passedOver_of_isValue _ value written (Nat.lt_succ_self _) h

section
variable {bound : Nat} (hunique : ∀ value value' written, written.length < bound →
  IsValue value written → IsValue value' written → value = value')
include hunique

theorem separable_values : Separable IsValue .list bound where
  passedOver := passedOver_value
  exists_cons value written h := by
    obtain ⟨c, rest, rfl, hc, hclosing, -⟩ := h.exists_cons
    exact ⟨c, rest, rfl, hc, hclosing⟩
  unique := hunique

theorem separable_members : Separable IsMember .object bound where
  passedOver member written h :=
    passedOver_of_isMember (fun value own _ => passedOver_value value own) (Nat.lt_succ_self _) h
  exists_cons member written h := by
    obtain ⟨rest, rfl⟩ := h.exists_cons
    exact ⟨'"', rest, rfl, by decide, by decide⟩
  unique member member' written hlength h h' :=
    h.unique (fun value value' own hown => hunique value value' own (by omega)) h'

end

/-- A text is at most one value: by induction on its length, as the items of a container are
    shorter than it is. -/
theorem IsValue.unique {value value' : Value} {written : List Char} (h : IsValue value written)
    (h' : IsValue value' written) : value = value' := by
  induction hlength : written.length using Nat.strongRecOn
    generalizing value value' written with
  | ind length ih =>
  have hshorter : ∀ value value' own, own.length < length → IsValue value own →
      IsValue value' own → value = value' :=
    fun _ _ own hown hx hy => ih own.length hown hx hy rfl
  cases h with
  | null => simpa [eq_comm] using h'.cases_first
  | true => simpa [eq_comm] using h'.cases_first
  | false => simpa [eq_comm] using h'.cases_first
  | number hnumber =>
    obtain ⟨c, rest, rfl, hc⟩ := hnumber.exists_cons
    rcases h'.cases_first with ⟨rfl, -⟩ | ⟨rfl, -⟩ | ⟨rfl, -⟩ | ⟨-, rfl⟩ | ⟨rfl, -⟩ | ⟨rfl, -⟩ |
      ⟨rfl, -⟩
    case inr.inr.inr.inl => rfl
    all_goals simp at hc
  | string hpieces =>
    obtain ⟨pieces', rfl, hpieces'⟩ : ∃ pieces, value' = .string pieces ∧ IsPieces pieces _ := by
      simpa using h'.cases_first
    rw [hpieces.unique hpieces']
  | list hbody =>
    obtain ⟨elements', rfl, hbody'⟩ : ∃ elements, value' = .list elements ∧
      Body IsValue ']' elements _ := by simpa using h'.cases_first
    rw [(separable_values hshorter).body_unique hbody hbody' (by simp [← hlength])]
  | object hbody =>
    obtain ⟨members', rfl, hbody'⟩ : ∃ members, value' = .object members ∧
      Body IsMember '\x7d' members _ := by simpa using h'.cases_first
    rw [(separable_members hshorter).body_unique hbody hbody' (by simp [← hlength])]

theorem Spaces.stops {space : List Char} (h : Spaces space) : Stops space := by
  intro c hc
  rcases h c (List.mem_of_mem_head? hc) with rfl | rfl | rfl | rfl <;> decide

/-- A document is at most one value. -/
theorem IsDocument.unique {value value' : Value} {text : List Char} (h : IsDocument value text)
    (h' : IsDocument value' text) : value = value' := by
  obtain ⟨before, written, after, hbefore, hvalue, hafter, rfl⟩ := h
  obtain ⟨before', written', after', hbefore', hvalue', hafter', heq⟩ := h'
  have hvalues : Separable IsValue .list (written.length + 1) :=
    separable_values fun _ _ _ _ hx hy => hx.unique hy
  exact (hvalues.eq_of_spaces_append hbefore hbefore' hvalue hvalue' (Nat.lt_succ_self _)
    hafter.stops hafter'.stops heq).1

end TestCoverage.Json
