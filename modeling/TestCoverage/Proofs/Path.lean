/-
  TestCoverage.Proofs.Path

  Where a path leads, component by component, and when one path lies within another.  Nothing is
  looked up: a step upwards stays a component of its own.

  A joined path goes on from the components of its base, unless the other path is absolute.
-/
import TestCoverage.Path
import TestCoverage.Proofs.Text.Pieces

namespace TestCoverage.Path

open Text (firstPiece pieces pieces_append_separator)

/-! ## Components -/

/-- A step of a path. -/
inductive Component where
  | root
  | here
  | above
  | name (part : Bytes)
deriving DecidableEq, Repr

/-- The step that a part of a path stands for.  An empty part stands for none, and neither does
    the directory itself. -/
def ofPart? (part : Bytes) : Option Component :=
  if part = [] ∨ part = Path.here then none
  else if part = Path.above then some .above
  else some (.name part)

/-- Where a path begins: at the root, or expressly at the current directory. -/
def start (path : Path) : List Component :=
  if path.isAbsolute then [.root]
  else if firstPiece separator path = Path.here then [.here]
  else []

/-- The steps of a path behind its beginning. -/
def steps (path : Path) : List Component :=
  (pieces separator path).filterMap ofPart?

/-- The components of a path. -/
def components (path : Path) : List Component :=
  path.start ++ path.steps

/-- The path is `base` itself or leads on from there. -/
def IsWithin (path base : Path) : Prop :=
  base.components <+: path.components

instance (path base : Path) : Decidable (path.IsWithin base) :=
  inferInstanceAs (Decidable (_ <+: _))

/-! ## Separators -/

theorem steps_append_separator (before behind : Path) :
    steps (before ++ separator :: behind) = before.steps ++ behind.steps := by
  rw [steps, pieces_append_separator, List.filterMap_append]
  rfl

/-- A separator at the end is no step. -/
theorem steps_concat_separator (path : Path) : steps (path ++ [separator]) = path.steps := by
  rw [steps_append_separator]
  exact List.append_nil _

/-- Where a path begins is known before its first separator, which may be the beginning. -/
theorem start_append_separator (before behind behind' : Path) :
    start (before ++ separator :: behind) = start (before ++ separator :: behind') := by
  have hfirst : firstPiece separator (before ++ separator :: behind) =
      firstPiece separator (before ++ separator :: behind') := by
    rw [Text.firstPiece_append_separator, Text.firstPiece_append_separator]
  have habsolute : isAbsolute (before ++ separator :: behind) =
      isAbsolute (before ++ separator :: behind') := by
    cases before <;> rfl
  rw [start, start, hfirst, habsolute]

theorem start_append_separator_of_ne_nil {before : Path} (hbefore : before ≠ [])
    (behind : Path) : start (before ++ separator :: behind) = before.start := by
  have habsolute : isAbsolute (before ++ separator :: behind) = before.isAbsolute := by
    obtain ⟨first, rest, rfl⟩ := List.exists_cons_of_ne_nil hbefore
    rfl
  rw [start, start, habsolute, Text.firstPiece_append_separator]

/-! ## Joined paths -/

/-- A path that is not absolute goes on where the other one ends, with or without a separator
    at that end. -/
theorem components_join {base sub : Path} (hbase : base ≠ []) (hsub : sub.isAbsolute = false) :
    (base.join sub).components = base.components ++ sub.steps := by
  rw [join, if_neg (by simp [hsub])]
  split
  case isTrue hend =>
    have hlast : base.getLast? = some separator := by
      simpa [List.isEmpty_iff, hbase] using hend
    obtain ⟨init, rfl⟩ := List.getLast?_eq_some_iff.mp hlast
    rw [List.append_assoc, List.singleton_append, components, components,
      start_append_separator init sub [], steps_append_separator, steps_concat_separator,
      List.append_assoc]
  case isFalse =>
    rw [components, components, start_append_separator_of_ne_nil hbase, steps_append_separator,
      List.append_assoc]

/-- A joined path leaves its base only for an absolute path, which may still lead back. -/
theorem isWithin_join_iff {base sub : Path} (hbase : base ≠ []) :
    (base.join sub).IsWithin base ↔ sub.isAbsolute = false ∨ sub.IsWithin base := by
  cases hsub : sub.isAbsolute with
  | false =>
    simp only [true_or, iff_true]
    rw [IsWithin, components_join hbase hsub]
    exact List.prefix_append _ _
  | true =>
    have hjoin : base.join sub = sub := by rw [join, if_pos hsub]
    simp [hjoin]

end TestCoverage.Path
