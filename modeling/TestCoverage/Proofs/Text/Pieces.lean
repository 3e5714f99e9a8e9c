/-
  TestCoverage.Proofs.Text.Pieces

  The pieces of a text that is put together from two.  Only one piece belongs to both parts:
  it is the last piece of the one and the first piece of the other.
-/
import TestCoverage.Text.Pieces

namespace TestCoverage.Text

variable {α : Type} [DecidableEq α]

/-! ## The pieces at the ends -/

/-- What stands before the first separator. -/
def firstPiece (separator : α) (text : List α) : List α :=
  (pieces separator text).head (pieces_ne_nil separator text)

/-- What stands behind the last separator. -/
def lastPiece (separator : α) (text : List α) : List α :=
  (pieces separator text).getLast (pieces_ne_nil separator text)

theorem exists_firstPiece (separator : α) (text : List α) :
    ∃ others, pieces separator text = firstPiece separator text :: others :=
  ⟨_, (List.cons_head_tail _).symm⟩

theorem exists_lastPiece (separator : α) (text : List α) :
    ∃ others, pieces separator text = others ++ [lastPiece separator text] :=
  ⟨_, (List.dropLast_concat_getLast _).symm⟩

/-! ## Two texts, one behind the other -/

theorem pieces_cons_of_ne {separator c : α} (h : c ≠ separator) {rest piece : List α}
    {others : List (List α)} (hrest : pieces separator rest = piece :: others) :
    pieces separator (c :: rest) = (c :: piece) :: others := by
  rw [pieces, if_neg h, hrest]

/-- Only the last piece goes on behind the text. -/
theorem pieces_append {separator : α} {before behind last first : List α}
    {init tail : List (List α)} (hbefore : pieces separator before = init ++ [last])
    (hbehind : pieces separator behind = first :: tail) :
    pieces separator (before ++ behind) = init ++ (last ++ first) :: tail := by
  induction before generalizing init last with
  | nil =>
    obtain ⟨rfl, hlast⟩ : init = [] ∧ last = [] := by
      cases init with
      | nil => simpa [pieces, eq_comm] using hbefore
      | cons piece init => simp [pieces] at hbefore
    simpa [hlast] using hbehind
  | cons c before ih =>
    rw [List.cons_append]
    by_cases hc : c = separator
    · -- A separator ends an empty piece, which is not the last one.
      rw [pieces, if_pos hc] at hbefore ⊢
      obtain ⟨others, hothers⟩ := exists_lastPiece separator before
      rw [hothers, ← List.cons_append] at hbefore
      obtain ⟨rfl, hlast⟩ := List.append_inj' hbefore rfl
      rw [ih (hothers.trans (congrArg (others ++ ·) hlast))]
      rfl
    · obtain ⟨piece, others, hpieces⟩ :=
        List.exists_cons_of_ne_nil (pieces_ne_nil separator before)
      rw [pieces_cons_of_ne hc hpieces] at hbefore
      -- The character belongs to the first piece, which may be the last one as well.
      cases init with
      | nil =>
        obtain ⟨rfl, rfl⟩ := List.cons.inj hbefore
        exact pieces_cons_of_ne hc (@ih piece [] hpieces)
      | cons first init =>
        obtain ⟨rfl, rfl⟩ := List.cons.inj hbefore
        exact pieces_cons_of_ne hc (@ih last (piece :: init) hpieces)

/-- A text without the separator is one piece. -/
theorem pieces_of_not_mem {separator : α} {text : List α} (h : separator ∉ text) :
    pieces separator text = [text] := by
  induction text with
  | nil => rfl
  | cons c rest ih =>
    obtain ⟨hc, hrest⟩ : c ≠ separator ∧ separator ∉ rest := by simpa [eq_comm] using h
    exact pieces_cons_of_ne hc (ih hrest)

/-- With a separator between two texts, the pieces of the one stand before those of the other. -/
theorem pieces_append_separator (separator : α) (before behind : List α) :
    pieces separator (before ++ separator :: behind) =
      pieces separator before ++ pieces separator behind := by
  have hbehind : pieces separator (separator :: behind) = [] :: pieces separator behind := by
    rw [pieces, if_pos rfl]
  obtain ⟨init, hbefore⟩ := exists_lastPiece separator before
  rw [pieces_append hbefore hbehind, hbefore, List.append_nil]
  simp

/-- The first piece is known at the first separator. -/
theorem firstPiece_append_separator (separator : α) (before behind : List α) :
    firstPiece separator (before ++ separator :: behind) = firstPiece separator before := by
  simp only [firstPiece, pieces_append_separator]
  exact List.head_append_of_ne_nil (pieces_ne_nil separator before)

/-- A text without the separator is the first piece before one. -/
theorem pieces_append_cons {separator : α} {text : List α} (h : separator ∉ text)
    (rest : List α) :
    pieces separator (text ++ separator :: rest) = text :: pieces separator rest := by
  rw [pieces_append_separator, pieces_of_not_mem h, List.singleton_append]

end TestCoverage.Text
