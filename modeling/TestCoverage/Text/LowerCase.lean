/-
  TestCoverage.Text.LowerCase

  Lower case for all of Unicode: each upper-case character by its simple mapping, with
  two exceptions.  A dotted capital I becomes two characters, and a capital sigma at the
  end of a word becomes the final form of the letter.
-/
import TestCoverage.Text.CaseData

namespace TestCoverage.Text

/-- The character belongs to one of the ranges. -/
def inRanges (ranges : List (Nat × Nat)) (c : Char) : Bool :=
  ranges.any fun (low, high) => low ≤ c.toNat && c.toNat ≤ high

/-- The simple lower-case form of a character; itself if it has none. -/
def lowerChar (c : Char) : Char :=
  if c.toNat < 0x80 then c.toLower
  else
    let run := lowerRuns.find? fun (low, high, step, _) =>
      low ≤ c.toNat && c.toNat ≤ high && (c.toNat - low) % step == 0
    match run with
    | some (low, _, _, lower) => Char.ofNat (lower + (c.toNat - low))
    | none => c

/-- The nearest character that counts for case is a cased one. -/
def meetsCased (text : List Char) : Bool :=
  match text.dropWhile (inRanges caseIgnorableRanges) with
  | [] => false
  | c :: _ => inRanges casedRanges c

/-- A capital sigma stands at the end of a word: cased characters before it, none after. -/
def isFinalSigma (before after : List Char) : Bool :=
  meetsCased before && !meetsCased after

/-- Lower case of a text, given what stands before it in reverse order. -/
def lowerAfter (before : List Char) : List Char → List Char
  | [] => []
  | c :: rest =>
    let lower :=
      if c = 'Σ' then [if isFinalSigma before rest then 'ς' else 'σ']
      else if c = 'İ' then ['i', '\u0307']
      else [lowerChar c]
    lower ++ lowerAfter (c :: before) rest

/-- The text in lower case. -/
def lowerCase (text : List Char) : List Char :=
  lowerAfter [] text

/-- The string in lower case. -/
def lowered (text : String) : String :=
  String.ofList (lowerCase text.toList)

example : lowered "TrUe" = "true" := by decide +kernel
example : lowered "\u212Aé\u1E9E" = "ké\u00DF" := by decide +kernel
example : lowered "ΟΔΟΣ Σ" = "οδος σ" := by decide +kernel

end TestCoverage.Text
