/-
  TestCoverage.Path

  Paths as byte strings.  Joining normalises nothing.
-/
import TestCoverage.Text.Pieces
import TestCoverage.Text.Utf8

namespace TestCoverage

/-- A path of the file system. -/
abbrev Path := Bytes

namespace Path

/-- The byte between the parts of a path. -/
def separator : UInt8 := 0x2F

/-- The path begins at the root. -/
def isAbsolute (path : Path) : Bool :=
  path.head? == some separator

/-- The path of `sub` seen from `base`: an absolute `sub` stands for itself, and otherwise
    one separator lies between the two, unless `base` is empty or brings its own. -/
def join (base sub : Path) : Path :=
  if sub.isAbsolute then sub
  else if base.isEmpty ∨ base.getLast? = some separator then base ++ sub
  else base ++ separator :: sub

/-- The directory itself, as a part of a path. -/
def here : Bytes := [0x2E]

/-- The directory above, as a part of a path. -/
def above : Bytes := [0x2E, 0x2E]

/-- The parts of a path, without those that lead nowhere. -/
def parts (path : Path) : List Bytes :=
  (Text.pieces separator path).filter fun part => !part.isEmpty && part ≠ here

/-- Drops the parts that two paths begin with. -/
def dropCommon : List Bytes → List Bytes → List Bytes × List Bytes
  | a :: as, b :: bs => if a = b then dropCommon as bs else (a :: as, b :: bs)
  | as, bs => (as, bs)

/-- An absolute path as it is seen from another. -/
def relativeTo (path base : Path) : Path :=
  let (down, up) := dropCommon path.parts base.parts
  [separator].intercalate (up.map (fun _ => above) ++ down)

example : join (Utf8.ofString "/t") (Utf8.ofString "cov") = Utf8.ofString "/t/cov" := by decide
example : join (Utf8.ofString "/t/") (Utf8.ofString "cov") = Utf8.ofString "/t/cov" := by decide
example : join (Utf8.ofString "/t") [] = Utf8.ofString "/t/" := by decide
example : join (Utf8.ofString "/t") (Utf8.ofString "/z") = Utf8.ofString "/z" := by decide
example : relativeTo (Utf8.ofString "/w/x//k.toml") (Utf8.ofString "/w/") =
    Utf8.ofString "x/k.toml" := by decide
example : relativeTo (Utf8.ofString "/v/k") (Utf8.ofString "/w/y") =
    Utf8.ofString "../../v/k" := by decide

end Path
end TestCoverage
