/-
  TestCoverage.Shell.Fields

  What the expansion of a word gives, and how it is cut into fields.

  Each character remembers where it came from, because only characters of expansions
  outside quotes separate fields, and only characters outside quotes are special in
  patterns.
-/
import TestCoverage.Shell.Pattern

namespace TestCoverage.Shell

/-- A part of an expanded word. -/
inductive Mark where
  /-- a character that is in quotes -/
  | quoted (c : Char)
  /-- a character of the word itself -/
  | plain (c : Char)
  /-- a character of an expansion -/
  | expanded (c : Char)
  /-- quotes with nothing in them: there is a field -/
  | nothing
  /-- one argument ends and another begins -/
  | gap
deriving DecidableEq, Repr

namespace Mark

/-- The character, and whether it is special in patterns. -/
def marked? : Mark → Option Marked
  | quoted c => some (c, false)
  | plain c | expanded c => some (c, true)
  | nothing => none
  | gap => some (' ', false)

/-- The text of marks. -/
def text (marks : List Mark) : List Char :=
  (marks.filterMap marked?).map (·.1)

/-- Marks as a pattern. -/
def pattern (marks : List Mark) : List Pattern :=
  Pattern.ofMarked (marks.filterMap marked?)

/-! ## Fields -/

/-- Where the cutting stands: between fields, inside one, or behind white space that ended
    one. -/
inductive Cut where
  | between
  | inside (field : List Mark)
  | behind
deriving DecidableEq, Repr

/-- The field that is being read. -/
def Cut.field : Cut → List Mark
  | .inside field => field
  | _ => []

/-- Cuts marks into fields, given the characters that separate them. -/
def fields (separators : List Char) : Cut → List Mark → List (List Mark)
  | .inside field, [] => [field]
  | _, [] => []
  | cut, expanded c :: rest =>
    if c ∉ separators then fields separators (.inside (cut.field ++ [expanded c])) rest
    else if c = ' ' ∨ c = '\t' ∨ c = '\n' then
      match cut with
      | .inside field => field :: fields separators .behind rest
      | cut => fields separators cut rest
    else
      match cut with
      | .between => [] :: fields separators .between rest
      | .inside field => field :: fields separators .between rest
      | .behind => fields separators .between rest
  | cut, gap :: rest =>
    match cut with
    | .inside field => field :: fields separators .between rest
    | _ => fields separators .between rest
  | cut, nothing :: rest => fields separators (.inside cut.field) rest
  | cut, mark :: rest => fields separators (.inside (cut.field ++ [mark])) rest

example : fields [','] .between [expanded 'a', expanded ',', expanded ',', expanded 'b'] =
    [[expanded 'a'], [], [expanded 'b']] := by decide

end Mark
end TestCoverage.Shell
