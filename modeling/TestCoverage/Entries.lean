/-
  TestCoverage.Entries

  Values under names, in the order in which the names came up.  A name that is given a
  second value keeps its place.
-/

namespace TestCoverage

/-- Values under names, which are texts unless something else is said. -/
abbrev Entries (α : Type) (ν : Type := String) := List (ν × α)

namespace Entries

variable {α ν : Type} [DecidableEq ν]

/-- The value under a name. -/
def get? : Entries α ν → ν → Option α
  | [], _ => none
  | (other, value) :: rest, name => if other = name then some value else get? rest name

/-- The entries with a value under a name, in its place if the name is there. -/
def set : Entries α ν → ν → α → Entries α ν
  | [], name, value => [(name, value)]
  | (other, old) :: rest, name, value =>
    if other = name then (name, value) :: rest else (other, old) :: set rest name value

/-- The entries with the values of others, which are set one after the other. -/
def setAll (entries news : Entries α ν) : Entries α ν :=
  news.foldl (fun entries (name, value) => entries.set name value) entries

/-- The entries without a name. -/
def erase (entries : Entries α ν) (name : ν) : Entries α ν :=
  entries.filter (·.1 ≠ name)

/-- A name has the value that was given to it. -/
theorem get?_set_self (entries : Entries α ν) (name : ν) (value : α) :
    (entries.set name value).get? name = some value := by
  induction entries with
  | nil => simp [set, get?]
  | cons entry rest ih =>
    obtain ⟨other, old⟩ := entry
    by_cases h : other = name
    · simp [set, get?, h]
    · simp [set, get?, h, ih]

/-- The other names keep their values. -/
theorem get?_set_of_ne (entries : Entries α ν) {name asked : ν} (value : α)
    (h : asked ≠ name) : (entries.set name value).get? asked = entries.get? asked := by
  induction entries with
  | nil => simp [set, get?, h.symm]
  | cons entry rest ih =>
    obtain ⟨other, old⟩ := entry
    by_cases h' : other = name
    · simp [set, get?, h', h.symm]
    · by_cases h'' : other = asked
      · subst h''
        simp [set, get?, h']
      · simp [set, get?, h', h'', ih]

end Entries
end TestCoverage
