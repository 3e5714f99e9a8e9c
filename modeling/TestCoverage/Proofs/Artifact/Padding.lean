/-
  TestCoverage.Proofs.Artifact.Padding

  White space at the ends of lines.  A line is trimmed of all white space that Unicode knows
  before it is read, so nothing that is put around it is seen: the artifacts are the same, and
  so are the errors with their places.  A carriage return before a line end is such white space.
-/
import TestCoverage.Proofs.Artifact.Stream
import TestCoverage.Proofs.Text.Lines

namespace TestCoverage.Text

/-! ## Padded texts -/

/-- White space that can stand at an end of a line: it does not end the line itself. -/
def IsPadding (text : List Char) : Prop :=
  AllBlank text ∧ '\n' ∉ text

instance (text : List Char) : Decidable (IsPadding text) := inferInstanceAs (Decidable (_ ∧ _))

theorem isPadding_nil : IsPadding [] :=
  ⟨allBlank_nil, List.not_mem_nil⟩

/-- The second text is the first one with padding at the beginning and at the end of each of
    its lines. -/
inductive Padded : List Char → List Char → Prop where
  | last {before line after : List Char} (hbefore : IsPadding before) (hline : '\n' ∉ line)
      (hafter : IsPadding after) : Padded line (before ++ (line ++ after))
  | more {before line after rest padded : List Char} (hbefore : IsPadding before)
      (hline : '\n' ∉ line) (hafter : IsPadding after) (hrest : Padded rest padded) :
      Padded (line ++ '\n' :: rest) (before ++ (line ++ after) ++ '\n' :: padded)

theorem notMem_pad {before line after : List Char} (hbefore : IsPadding before)
    (hline : '\n' ∉ line) (hafter : IsPadding after) : '\n' ∉ before ++ (line ++ after) := by
  simp [hbefore.2, hline, hafter.2]

/-! ## Carriage returns -/

/-- The text with a carriage return before every line end. -/
def withReturns (text : List Char) : List Char :=
  text.flatMap fun c => if c = '\n' then ['\r', '\n'] else [c]

theorem withReturns_of_notMem {line : List Char} (h : '\n' ∉ line) : withReturns line = line := by
  induction line with
  | nil => rfl
  | cons c line ih =>
    obtain ⟨hc, hline⟩ : c ≠ '\n' ∧ '\n' ∉ line := by simpa [eq_comm] using h
    rw [withReturns, List.flatMap_cons, if_neg hc, List.singleton_append]
    exact congrArg (c :: ·) (ih hline)

theorem withReturns_append (a b : List Char) :
    withReturns (a ++ b) = withReturns a ++ withReturns b :=
  List.flatMap_append

theorem withReturns_cons (rest : List Char) :
    withReturns ('\n' :: rest) = '\r' :: '\n' :: withReturns rest :=
  rfl

/-- Carriage returns are padding at the end of every line but the last. -/
theorem padded_withReturns (text : List Char) : Padded text (withReturns text) := by
  induction text using lineInduction with
  | last line hline =>
    rw [withReturns_of_notMem hline]
    simpa using Padded.last isPadding_nil hline isPadding_nil
  | more line rest hline ih =>
    have hreturn : withReturns (line ++ '\n' :: rest) =
        [] ++ (line ++ ['\r']) ++ '\n' :: withReturns rest := by
      rw [withReturns_append, withReturns_of_notMem hline, withReturns_cons]
      simp
    rw [hreturn]
    exact .more isPadding_nil hline (by decide) ih

end TestCoverage.Text

namespace TestCoverage.Artifact

open Text (IsPadding Padded)

/-! ## Their items -/

/-- What is put around a line is trimmed away. -/
theorem itemsFrom_pad_cons {before after : List Char} (hbefore : IsPadding before)
    (hafter : IsPadding after) (number : Nat) (line : List Char) (lines : List (List Char)) :
    itemsFrom number ((before ++ (line ++ after)) :: lines) = itemsFrom number (line :: lines) := by
  simp only [itemsFrom, lineItem?, Text.trim_pad hbefore.1 hafter.1]

theorem itemsFrom_pieces_of_padded {text padded : List Char} (h : Padded text padded)
    (number : Nat) :
    itemsFrom number (Text.pieces '\n' padded) = itemsFrom number (Text.pieces '\n' text) := by
  induction h generalizing number with
  | last hbefore hline hafter =>
    rw [Text.pieces_of_not_mem hline, Text.pieces_of_not_mem (Text.notMem_pad hbefore hline hafter),
      itemsFrom_pad_cons hbefore hafter]
  | more hbefore hline hafter _ ih =>
    rw [Text.pieces_append_cons hline,
      Text.pieces_append_cons (Text.notMem_pad hbefore hline hafter),
      itemsFrom_pad_cons hbefore hafter, itemsFrom, itemsFrom, ih]

theorem items_eq_of_padded {text padded : List Char} (h : Padded text padded) :
    items padded = items text :=
  itemsFrom_pieces_of_padded h 1

theorem testFiles_eq_of_padded {text padded : List Char} (h : Padded text padded) :
    testFiles padded = testFiles text := by
  rw [testFiles, items_eq_of_padded h, testFiles]

/-- Whatever white space is put at the ends of the lines of an output, its items are the same,
    the errors among them included, and so are its files.  In particular the lines may end in
    carriage returns. -/
theorem items_pad (text : List Char) :
    (∀ padded, Padded text padded →
      items padded = items text ∧ testFiles padded = testFiles text) ∧
    items (Text.withReturns text) = items text ∧
    testFiles (Text.withReturns text) = testFiles text := by
  have hreturns := Text.padded_withReturns text
  exact ⟨fun _ h => ⟨items_eq_of_padded h, testFiles_eq_of_padded h⟩,
    items_eq_of_padded hreturns, testFiles_eq_of_padded hreturns⟩

/-- White space that is none between the tokens of a message: an artifact, an empty line and an
    error, which is still on the third line and in the first column. -/
theorem items_pad_not_json :
    Padded "\x7b\x7d\n\nx".toList "\u00A0\x7b\x7d\u2028\r\n\x0b\n\u0085x\x0c".toList ∧
      items "\u00A0\x7b\x7d\u2028\r\n\x0b\n\u0085x\x0c".toList =
        [.ok ⟨none, []⟩, .error ⟨3, ⟨.expectedValue, 1, 1⟩⟩] := by
  have hpadded :
      Padded "\x7b\x7d\n\nx".toList "\u00A0\x7b\x7d\u2028\r\n\x0b\n\u0085x\x0c".toList :=
    @Padded.more ['\u00A0'] ['\x7b', '\x7d'] ['\u2028', '\r'] _ _ (by decide) (by decide)
      (by decide) (@Padded.more [] [] ['\x0b'] _ _ (by decide) (by decide) (by decide)
        (@Padded.last ['\u0085'] ['x'] ['\x0c'] (by decide) (by decide) (by decide)))
  refine ⟨hpadded, ((items_pad _).1 _ hpadded).1.trans ?_⟩
  decide +kernel

end TestCoverage.Artifact
