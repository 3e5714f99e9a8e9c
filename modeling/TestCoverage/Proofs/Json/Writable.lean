/-
  TestCoverage.Proofs.Json.Writable

  Values that can be written on one line.  A value can if its parts can, and every text has
  a spelling that can.
-/
import TestCoverage.Proofs.Json.Spelling

namespace TestCoverage.Json

/-- The value can be written on one line. -/
def Writable (value : Value) : Prop :=
  ∃ written, IsValue value written ∧ '\n' ∉ written

/-- The member can be written on one line. -/
def WritableMember (member : Member) : Prop :=
  ∃ written, IsMember member written ∧ '\n' ∉ written

theorem writable_boolean (test : Bool) : Writable (.boolean test) := by
  cases test
  · exact ⟨_, .false, by decide⟩
  · exact ⟨_, .true, by decide⟩

theorem exists_writable_string (text : List Char) :
    ∃ pieces, SpellsText text pieces ∧ Writable (.string pieces) := by
  obtain ⟨pieces, written, hspells, hpieces, hline⟩ := exists_isPieces text
  exact ⟨pieces, hspells, _, .string hpieces, by simp [hline]⟩

theorem writable_list {elements : List Value} (h : ∀ element ∈ elements, Writable element) :
    Writable (.list elements) := by
  obtain ⟨body, hbody, hline⟩ := exists_body (show '\n' ≠ ']' by decide) h
  exact ⟨_, .list hbody, by simp [hline]⟩

theorem writable_object {members : List Member} (h : ∀ member ∈ members, WritableMember member) :
    Writable (.object members) := by
  obtain ⟨body, hbody, hline⟩ := exists_body (show '\n' ≠ '\x7d' by decide) h
  exact ⟨_, .object hbody, by simp [hline]⟩

/-- A value that can be written can be the value of a member with any name. -/
theorem Writable.exists_member {value : Value} (h : Writable value) (name : String) :
    ∃ pieces, SpellsText name.toList pieces ∧ WritableMember (pieces, value) := by
  obtain ⟨written, hvalue, hline⟩ := h
  obtain ⟨pieces, spelled, hspells, hpieces, hname⟩ := exists_isPieces name.toList
  exact ⟨pieces, hspells, _, .colon hpieces spaces_nil spaces_nil hvalue,
    by simp [hname, hline]⟩

/-- What has a value that can be written has a member that can be written. -/
theorem exists_gives {α : Type} (name : String) {Writes : α → Value → Prop}
    (h : ∀ a, ∃ value, Writes a value ∧ Writable value) (entry : Option α) :
    ∃ own, Gives name Writes entry own ∧ ∀ member ∈ own, WritableMember member := by
  cases entry with
  | none => exact ⟨[], .absent, List.forall_mem_nil _⟩
  | some a =>
    obtain ⟨value, hwrites, hvalue⟩ := h a
    obtain ⟨pieces, hspells, hmember⟩ := hvalue.exists_member name
    exact ⟨_, .given hspells hwrites, List.forall_mem_singleton.mpr hmember⟩

/-- A value that can be written is a document. -/
theorem Writable.exists_isDocument {value : Value} (h : Writable value) :
    ∃ document, IsDocument value document := by
  obtain ⟨written, hvalue, -⟩ := h
  exact ⟨[] ++ (written ++ []), [], written, [], spaces_nil, hvalue, spaces_nil, rfl⟩

end TestCoverage.Json
