/-
  TestCoverage.Proofs.Text.Lines

  The lines of a text with the places that they have in it.  Cutting the text into pieces
  gives just these lines, in order.
-/
import Mathlib.Tactic.Common
import TestCoverage.Proofs.Text.Pieces

namespace TestCoverage.Text

/-- The line stands in the text behind `before`: no line end is in it, and it begins and ends
    at the ends of the text or at line ends. -/
structure IsLine (text before line : List Char) : Prop where
  notMem : '\n' ∉ line
  begins : before = [] ∨ ∃ earlier, before = earlier ++ ['\n']
  exists_after : ∃ after, text = before ++ (line ++ after) ∧
    (after = [] ∨ ∃ later, after = '\n' :: later)

/-! ## Texts line by line -/

/-- A text is one line, or a line, a line end and more text. -/
theorem lineInduction {motive : List Char → Prop}
    (last : ∀ line, '\n' ∉ line → motive line)
    (more : ∀ line rest, '\n' ∉ line → motive rest → motive (line ++ '\n' :: rest))
    (text : List Char) : motive text := by
  induction hlength : text.length using Nat.strongRecOn generalizing text with
  | ind length ih =>
    by_cases hmem : '\n' ∈ text
    · obtain ⟨line, rest, rfl, hline⟩ := List.eq_append_cons_of_mem hmem
      refine more line rest hline (ih rest.length ?_ rest rfl)
      rw [← hlength, List.length_append, List.length_cons]
      omega
    · exact last text hmem

/-- What stands before the first line end is the same in two texts that are the same. -/
theorem append_cons_eq_iff {a : Char} {first rest second rest' : List Char} (h : a ∉ first)
    (h' : a ∉ second) :
    first ++ a :: rest = second ++ a :: rest' ↔ first = second ∧ rest = rest' := by
  constructor
  · intro heq
    have htake : (first ++ a :: rest).takeWhile (· ≠ a) =
        (second ++ a :: rest').takeWhile (· ≠ a) := by rw [heq]
    have hkeep {text tail : List Char} (hmem : a ∉ text) :
        (text ++ a :: tail).takeWhile (· ≠ a) = text := by
      rw [List.takeWhile_append_of_pos fun c hc => decide_eq_true (ne_of_mem_of_not_mem hc hmem)]
      simp
    rw [hkeep h, hkeep h'] at htake
    subst htake
    exact ⟨rfl, (List.cons.inj (List.append_cancel_left heq)).2⟩
  · rintro ⟨rfl, rfl⟩
    rfl

/-- A text without line ends is its only line. -/
theorem isLine_iff_of_notMem {text before line : List Char} (h : '\n' ∉ text) :
    IsLine text before line ↔ before = [] ∧ line = text := by
  constructor
  · rintro ⟨hline, rfl | ⟨earlier, rfl⟩, after, rfl, rfl | ⟨later, rfl⟩⟩
    · simp
    all_goals simp at h
  · rintro ⟨rfl, rfl⟩
    exact ⟨h, .inl rfl, [], by simp, .inl rfl⟩

/-- The lines of a text are its first line, and the lines of what follows. -/
theorem isLine_append_cons_iff {first rest before line : List Char} (h : '\n' ∉ first) :
    IsLine (first ++ '\n' :: rest) before line ↔
      before = [] ∧ line = first ∨
        ∃ earlier, before = first ++ '\n' :: earlier ∧ IsLine rest earlier line := by
  constructor
  · rintro ⟨hline, rfl | ⟨earlier, rfl⟩, after, htext, hafter⟩
    · rcases hafter with rfl | ⟨later, rfl⟩
      · simp only [List.nil_append, List.append_nil] at htext
        simp [← htext] at hline
      · exact .inl ⟨rfl, ((append_cons_eq_iff h hline).mp htext).1.symm⟩
    · right
      -- the first line end of what stands before is the one behind the first line
      obtain ⟨head, tail, hearlier, hhead⟩ :=
        List.eq_append_cons_of_mem (List.mem_append_right earlier (List.mem_singleton_self '\n'))
      rw [hearlier, List.append_assoc, List.cons_append] at htext
      obtain ⟨rfl, rfl⟩ := (append_cons_eq_iff h hhead).mp htext
      refine ⟨tail, hearlier, hline, ?_, after, rfl, hafter⟩
      rcases tail.eq_nil_or_concat with rfl | ⟨init, last, rfl⟩
      · exact .inl rfl
      · have hends : earlier ++ ['\n'] = (first ++ '\n' :: init) ++ [last] := by
          simpa using hearlier
        obtain rfl : '\n' = last := by simpa using List.append_inj_right' hends rfl
        exact .inr ⟨init, List.concat_eq_append⟩
  · rintro (⟨rfl, rfl⟩ | ⟨earlier, rfl, hline, hbegins, after, rfl, hafter⟩)
    · exact ⟨h, .inl rfl, '\n' :: rest, rfl, .inr ⟨rest, rfl⟩⟩
    · refine ⟨hline, .inr ?_, after, by simp, hafter⟩
      rcases hbegins with rfl | ⟨earlier, rfl⟩
      · exact ⟨first, rfl⟩
      · exact ⟨first ++ '\n' :: earlier, by simp⟩

/-! ## Pieces with their places -/

/-- The lines with what stands before each of them, when `before` stands before the first. -/
def placed (before : List Char) : List (List Char) → List (List Char × List Char)
  | [] => []
  | line :: lines => (before, line) :: placed (before ++ (line ++ ['\n'])) lines

/-- The pieces of a text are its lines, at their places. -/
theorem mem_placed_iff {text before line behind : List Char} :
    (before, line) ∈ placed behind (pieces '\n' text) ↔
      ∃ own, before = behind ++ own ∧ IsLine text own line := by
  induction text using lineInduction generalizing behind with
  | last text h =>
    rw [pieces_of_not_mem h, placed, placed, List.mem_singleton, Prod.mk.injEq]
    simp [isLine_iff_of_notMem h]
  | more first rest h ih =>
    rw [pieces_append_cons h, placed, List.mem_cons, Prod.mk.injEq, ih]
    simp only [isLine_append_cons_iff h]
    constructor
    · rintro (⟨rfl, rfl⟩ | ⟨own, rfl, hline⟩)
      · exact ⟨[], by simp, .inl ⟨rfl, rfl⟩⟩
      · exact ⟨first ++ '\n' :: own, by simp, .inr ⟨own, rfl, hline⟩⟩
    · rintro ⟨_, rfl, ⟨rfl, rfl⟩ | ⟨own, rfl, hline⟩⟩
      · exact .inl ⟨by simp, rfl⟩
      · exact .inr ⟨own, by simp, hline⟩

/-- No line end is in a line. -/
theorem not_mem_of_mem_pieces {text line : List Char} (h : line ∈ pieces '\n' text) :
    '\n' ∉ line := by
  induction text using lineInduction with
  | last text htext =>
    rw [pieces_of_not_mem htext, List.mem_singleton] at h
    rwa [h]
  | more first rest hfirst ih =>
    rw [pieces_append_cons hfirst] at h
    rcases List.mem_cons.mp h with rfl | h
    · exact hfirst
    · exact ih h

/-- What stands before the lines begins with `before`. -/
theorem prefix_of_mem_placed {before : List Char} {lines : List (List Char)}
    {item : List Char × List Char} (h : item ∈ placed before lines) : before <+: item.1 := by
  induction lines generalizing before with
  | nil => cases h
  | cons line lines ih =>
    rcases List.mem_cons.mp h with rfl | h
    · exact List.prefix_rfl
    · exact (List.prefix_append before _).trans (ih h)

/-- A line and its end stand before every later line. -/
theorem pairwise_placed (before : List Char) (lines : List (List Char)) :
    (placed before lines).Pairwise fun a b => a.1 ++ (a.2 ++ ['\n']) <+: b.1 := by
  induction lines generalizing before with
  | nil => exact .nil
  | cons line lines ih => exact .cons (fun _ => prefix_of_mem_placed) (ih _)

end TestCoverage.Text
