/-
  TestCoverage.Text.Pieces

  Text cut at every occurrence of a separator.  There is always one piece more than
  there are separators, and putting the separators back restores the text.
-/

namespace TestCoverage.Text

variable {α : Type} [DecidableEq α]

/-- The pieces between the separators, in order. -/
def pieces (separator : α) : List α → List (List α)
  | [] => [[]]
  | c :: rest =>
    if c = separator then [] :: pieces separator rest
    else match pieces separator rest with
      | [] => [[c]]
      | piece :: others => (c :: piece) :: others

theorem pieces_ne_nil (separator : α) (text : List α) : pieces separator text ≠ [] := by
  cases text with
  | nil => simp [pieces]
  | cons c rest =>
    rw [pieces]
    split
    · simp
    · split <;> simp

/-- The number of pieces is one more than the number of separators. -/
theorem length_pieces (separator : α) (text : List α) :
    (pieces separator text).length = text.count separator + 1 := by
  induction text with
  | nil => rfl
  | cons c rest ih =>
    rw [pieces]
    split
    · next h => simp [h, ih]
    · next h =>
      split
      · next h' => exact absurd h' (pieces_ne_nil separator rest)
      · next piece others h' => simp [h', h] at ih ⊢; exact ih

example : pieces ':' "a::b".toList = ["a".toList, [], "b".toList] := by decide

end TestCoverage.Text
