/-
  TestCoverage.Proofs.Inserts

  Lists of which the second has more than the first, and their elements seen in any order.

  What comes of both lists is compared in both directions: whatever comes of one of them, what
  comes of the other in a suitable order is related to it.
-/
import Mathlib.Data.List.Perm.Basic

namespace TestCoverage

variable {α : Type}

/-- Whatever comes of one of the two, something related comes of the other. -/
structure BackAndForth (comes rel : α → α → Prop) (x y : α) : Prop where
  forth : ∀ v, comes x v → ∃ w, comes y w ∧ rel v w
  back : ∀ w, comes y w → ∃ v, comes x v ∧ rel v w

namespace BackAndForth

variable {comes rel rel' : α → α → Prop} {x y : α}

theorem refl (hrel : ∀ v, rel v v) (x : α) : BackAndForth comes rel x x where
  forth v hv := ⟨v, hv, hrel v⟩
  back w hw := ⟨w, hw, hrel w⟩

theorem imp (himp : ∀ v w, rel v w → rel' v w) (h : BackAndForth comes rel x y) :
    BackAndForth comes rel' x y where
  forth v hv := (h.forth v hv).imp fun w hw => ⟨hw.1, himp v w hw.2⟩
  back w hw := (h.back w hw).imp fun v hv => ⟨hv.1, himp v w hv.2⟩

end BackAndForth

/-- The elements in some order, and what comes of each. -/
def Arranged (comes : α → α → Prop) (elements elements' : List α) : Prop :=
  ∃ ordered, elements.Perm ordered ∧ List.Forall₂ comes ordered elements'

theorem exists_of_mem_forall₂ {rel : α → α → Prop} {xs ys : List α} (h : List.Forall₂ rel xs ys)
    {y : α} (hy : y ∈ ys) : ∃ x ∈ xs, rel x y := by
  induction h with
  | nil => exact absurd hy List.not_mem_nil
  | cons hrel _ ih =>
    rcases List.mem_cons.mp hy with rfl | hy
    · exact ⟨_, List.mem_cons_self, hrel⟩
    · exact (ih hy).imp fun x hx => ⟨List.mem_cons_of_mem _ hx.1, hx.2⟩

namespace Arranged

variable {comes : α → α → Prop}

/-- All elements as they are. -/
theorem refl (hrefl : ∀ x, comes x x) (elements : List α) : Arranged comes elements elements :=
  ⟨elements, .refl _, List.forall₂_same.mpr fun x _ => hrefl x⟩

theorem eq_nil {elements : List α} (h : Arranged comes elements []) : elements = [] := by
  obtain ⟨_, hperm, ⟨⟩⟩ := h
  exact hperm.eq_nil

/-- All that there is has come of an element. -/
theorem exists_of_mem {elements elements' : List α} (h : Arranged comes elements elements')
    {y : α} (hy : y ∈ elements') : ∃ x ∈ elements, comes x y := by
  obtain ⟨ordered, hperm, hforall⟩ := h
  have hordered : ∃ x ∈ ordered, comes x y := exists_of_mem_forall₂ hforall hy
  exact hordered.imp fun x hx => ⟨hperm.mem_iff.mpr hx.1, hx.2⟩

/-- Something has come of every element. -/
theorem exists_mem {elements elements' : List α} (h : Arranged comes elements elements')
    {x : α} (hx : x ∈ elements) : ∃ y ∈ elements', comes x y := by
  obtain ⟨ordered, hperm, hforall⟩ := h
  exact exists_of_mem_forall₂ hforall.flip (hperm.mem_iff.mp hx)

/-- Lists that have the same elements of one kind can have them in the same order. -/
theorem exists_filter_eq (hrefl : ∀ x, comes x x) {kind : α → Bool}
    (hkind : ∀ x y, comes x y → kind y = kind x) {xs ys vs : List α}
    (hperm : (xs.filter kind).Perm (ys.filter kind)) (h : Arranged comes xs vs) :
    ∃ ws, Arranged comes ys ws ∧ ws.filter kind = vs.filter kind := by
  obtain ⟨xs', hxs, hvs⟩ := h
  -- those of the kind go first, as they come in `vs`, and the others stay as they are
  let others := ys.filter fun y => !kind y
  have hsame : List.Forall₂ comes (xs'.filter kind) (vs.filter kind) :=
    List.rel_filter (fun {x y} hxy => by simp only [hkind x y hxy]) hvs
  have hys : ys.Perm (xs'.filter kind ++ others) :=
    (List.filter_append_perm kind ys).symm.trans
      ((hperm.symm.trans (hxs.filter kind)).append_right others)
  refine ⟨vs.filter kind ++ others, ⟨_, hys, ?_⟩, ?_⟩
  · exact List.rel_append hsame (List.forall₂_same.mpr fun x _ => hrefl x)
  · simp [others]

end Arranged

/-- The second list has something for each element of the first, in order, and new elements in
    between. -/
inductive Inserts (kept : α → α → Prop) (new : α → Prop) : List α → List α → Prop where
  | nil : Inserts kept new [] []
  | keep {x y : α} (hxy : kept x y) {xs ys : List α} (h : Inserts kept new xs ys) :
      Inserts kept new (x :: xs) (y :: ys)
  | insert {y : α} (hy : new y) {xs ys : List α} (h : Inserts kept new xs ys) :
      Inserts kept new xs (y :: ys)

namespace Inserts

variable {kept : α → α → Prop} {new : α → Prop} {xs ys : List α}

theorem map {β : Type} {kept' : β → β → Prop} {new' : β → Prop} {f : α → β}
    (hkept : ∀ x y, kept x y → kept' (f x) (f y)) (hnew : ∀ y, new y → new' (f y))
    (h : Inserts kept new xs ys) : Inserts kept' new' (xs.map f) (ys.map f) := by
  induction h with
  | nil => exact .nil
  | keep hxy _ ih => exact .keep (hkept _ _ hxy) ih
  | insert hy _ ih => exact .insert (hnew _ hy) ih

theorem of_forall₂ {grown added : List α} (hgrown : List.Forall₂ kept xs grown)
    (hadded : ∀ y ∈ added, new y) : Inserts kept new xs (grown ++ added) := by
  induction hgrown with
  | nil =>
    induction added with
    | nil => exact .nil
    | cons y added ih =>
      rw [List.forall_mem_cons] at hadded
      exact .insert hadded.1 (ih hadded.2)
  | cons hxy _ ih => exact .keep hxy ih

/-- The new elements can be brought to the end. -/
theorem exists_forall₂ (h : Inserts kept new xs ys) : ∃ grown added,
    List.Forall₂ kept xs grown ∧ (∀ y ∈ added, new y) ∧ ys.Perm (grown ++ added) := by
  induction h with
  | nil => exact ⟨[], [], .nil, List.forall_mem_nil _, .refl _⟩
  | keep hxy _ ih =>
    obtain ⟨grown, added, hgrown, hadded, hperm⟩ := ih
    exact ⟨_, added, .cons hxy hgrown, hadded, hperm.cons _⟩
  | insert hy _ ih =>
    obtain ⟨grown, added, hgrown, hadded, hperm⟩ := ih
    exact ⟨grown, _, hgrown, List.forall_mem_cons.mpr ⟨hy, hadded⟩,
      (hperm.cons _).trans List.perm_middle.symm⟩

/-! ## Other orders -/

/-- The second list follows another order of the first. -/
theorem exists_of_perm_left {xs' : List α} (hperm : xs.Perm xs') (h : Inserts kept new xs ys) :
    ∃ ys', ys.Perm ys' ∧ Inserts kept new xs' ys' := by
  obtain ⟨grown, added, hgrown, hadded, hys⟩ := h.exists_forall₂
  obtain ⟨grown', hgrown', hperm'⟩ := List.perm_comp_forall₂ hperm.symm hgrown
  exact ⟨grown' ++ added, hys.trans (hperm'.symm.append_right added), .of_forall₂ hgrown' hadded⟩

/-- The first list follows another order of the second. -/
theorem exists_of_perm_right {ys' : List α} (hperm : ys.Perm ys') (h : Inserts kept new xs ys) :
    ∃ xs', xs.Perm xs' ∧ Inserts kept new xs' ys' := by
  -- an exchange of neighbours in the second list is one in the first if both have been kept
  induction hperm generalizing xs with
  | nil => exact ⟨xs, .refl _, h⟩
  | cons y _ ih =>
    cases h with
    | keep hxy h =>
      obtain ⟨xs', hxs, h'⟩ := ih h
      exact ⟨_, hxs.cons _, .keep hxy h'⟩
    | insert hy h =>
      obtain ⟨xs', hxs, h'⟩ := ih h
      exact ⟨xs', hxs, .insert hy h'⟩
  | swap =>
    cases h with
    | keep hxy h =>
      cases h with
      | keep hxy' h => exact ⟨_, List.Perm.swap .., .keep hxy' (.keep hxy h)⟩
      | insert hy h => exact ⟨_, .refl _, .insert hy (.keep hxy h)⟩
    | insert hy h =>
      cases h with
      | keep hxy h => exact ⟨_, .refl _, .keep hxy (.insert hy h)⟩
      | insert hy' h => exact ⟨_, .refl _, .insert hy' (.insert hy h)⟩
  | trans _ _ ih ih' =>
    obtain ⟨xs', hxs, h⟩ := ih h
    obtain ⟨xs'', hxs', h⟩ := ih' h
    exact ⟨xs'', hxs.trans hxs', h⟩

/-! ## What comes of both -/

variable {comes rel : α → α → Prop} {fresh : α → Prop} (hrefl : ∀ x, comes x x)
include hrefl

/-- Element by element. -/
theorem backAndForth_forall₂
    (h : Inserts (BackAndForth comes rel) (fun y => ∀ w, comes y w → fresh w) xs ys) :
    BackAndForth (List.Forall₂ comes) (Inserts rel fresh) xs ys := by
  induction h with
  | nil =>
    constructor
    · rintro _ ⟨⟩
      exact ⟨[], .nil, .nil⟩
    · rintro _ ⟨⟩
      exact ⟨[], .nil, .nil⟩
  | keep hxy _ ih =>
    constructor
    · rintro _ (_ | ⟨hv, hvs⟩)
      obtain ⟨w, hw, hrel⟩ := hxy.forth _ hv
      obtain ⟨ws, hws, hrels⟩ := ih.forth _ hvs
      exact ⟨w :: ws, .cons hw hws, .keep hrel hrels⟩
    · rintro _ (_ | ⟨hw, hws⟩)
      obtain ⟨v, hv, hrel⟩ := hxy.back _ hw
      obtain ⟨vs, hvs, hrels⟩ := ih.back _ hws
      exact ⟨v :: vs, .cons hv hvs, .keep hrel hrels⟩
  | @insert y hy _ _ _ ih =>
    constructor
    · -- a new element may come as it is
      intro vs hvs
      obtain ⟨ws, hws, hrels⟩ := ih.forth _ hvs
      exact ⟨y :: ws, .cons (hrefl y) hws, .insert (hy y (hrefl y)) hrels⟩
    · rintro _ (_ | ⟨hw, hws⟩)
      obtain ⟨vs, hvs, hrels⟩ := ih.back _ hws
      exact ⟨vs, hvs, .insert (hy _ hw) hrels⟩

/-- In any order. -/
theorem backAndForth
    (h : Inserts (BackAndForth comes rel) (fun y => ∀ w, comes y w → fresh w) xs ys)
    {ys' : List α} (hperm : ys.Perm ys') :
    BackAndForth (Arranged comes) (Inserts rel fresh) xs ys' := by
  constructor
  · rintro vs ⟨xs', hxs, hvs⟩
    obtain ⟨zs, hzs, h'⟩ := h.exists_of_perm_left hxs
    obtain ⟨ws, hws, hrels⟩ := (h'.backAndForth_forall₂ hrefl).forth vs hvs
    exact ⟨ws, ⟨zs, hperm.symm.trans hzs, hws⟩, hrels⟩
  · rintro ws ⟨zs, hzs, hws⟩
    obtain ⟨xs', hxs, h'⟩ := h.exists_of_perm_right (hperm.trans hzs)
    obtain ⟨vs, hvs, hrels⟩ := (h'.backAndForth_forall₂ hrefl).back ws hws
    exact ⟨vs, ⟨xs', hxs, hvs⟩, hrels⟩

end Inserts
end TestCoverage
