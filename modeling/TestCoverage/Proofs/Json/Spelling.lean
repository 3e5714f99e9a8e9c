/-
  TestCoverage.Proofs.Json.Spelling

  How text may be written in a string.  Every character has several spellings: itself or an
  escape of one letter, or its number, which takes two units if it is large.  Whichever are
  chosen, the text comes back.
-/
import TestCoverage.Proofs.Json.Members

namespace TestCoverage.Json

/-! ## Characters -/

/-- The ways to spell a character: as it is, or by the number of its one or two units. -/
inductive Spells : Char → List Piece → Prop where
  | char (c : Char) : Spells c [.char c]
  | unit {c : Char} (hsmall : c.toNat < 0x10000) : Spells c [.unit c.toNat]
  | pair {c : Char} (hlarge : 0x10000 ≤ c.toNat) :
      Spells c [.unit (0xD800 + (c.toNat - 0x10000) / 0x400),
        .unit (0xDC00 + (c.toNat - 0x10000) % 0x400)]

/-- The spellings of a text, character by character. -/
inductive SpellsText : List Char → List Piece → Prop where
  | nil : SpellsText [] []
  | cons {c : Char} {text : List Char} {pieces rest : List Piece} (hfirst : Spells c pieces)
      (hrest : SpellsText text rest) : SpellsText (c :: text) (pieces ++ rest)

/-- The number of a character is never that of half a surrogate pair. -/
theorem toNat_ranges (c : Char) : c.toNat < 0xD800 ∨ 0xE000 ≤ c.toNat ∧ c.toNat < 0x110000 := by
  rcases c.valid with h | ⟨h, h'⟩
  · exact .inl h
  · exact .inr ⟨h, h'⟩

/-- A spelling of a character is read as the character, whatever stands behind it. -/
theorem Spells.unescape?_append {c : Char} {pieces : List Piece} (h : Spells c pieces)
    (rest : List Piece) : unescape? (pieces ++ rest) = (unescape? rest).map (c :: ·) := by
  have hranges := toNat_ranges c
  cases h with
  | char => rfl
  | unit hsmall =>
    have hnotLow : ¬ IsLow c.toNat := fun h => by
      have := h.1
      have := h.2
      omega
    have hnotHigh : ¬ IsHigh c.toNat := fun h => by
      have := h.1
      have := h.2
      omega
    rw [List.singleton_append, unescape?.eq_def]
    simp only [hnotLow, hnotHigh, if_false, Char.ofNat_toNat]
  | pair hlarge =>
    generalize hhalves : c.toNat - 0x10000 = offset
    have hoffset : offset < 0x100000 := by omega
    have hnotLow : ¬ IsLow (0xD800 + offset / 0x400) := fun h => by
      have := h.1
      omega
    have hhigh : IsHigh (0xD800 + offset / 0x400) := ⟨by omega, by omega⟩
    have hlow : IsLow (0xDC00 + offset % 0x400) := ⟨by omega, by omega⟩
    -- The two halves together give the number back.
    have hnumber : 0x10000 + (0xD800 + offset / 0x400 - 0xD800) * 0x400 +
        (0xDC00 + offset % 0x400 - 0xDC00) = c.toNat := by omega
    rw [List.cons_append, List.singleton_append, unescape?.eq_def]
    simp only [hnotLow, hhigh, hlow, if_false, if_true, hnumber, Char.ofNat_toNat]

/-- Every spelling of a text stands for the text. -/
theorem SpellsText.unescape?_eq {text : List Char} {pieces : List Piece}
    (h : SpellsText text pieces) : unescape? pieces = some text := by
  induction h with
  | nil => rfl
  | cons hfirst _ ih => rw [hfirst.unescape?_append, ih, Option.map_some]

/-- Every character may stand for itself. -/
theorem spellsText_char (text : List Char) : SpellsText text (text.map .char) := by
  induction text with
  | nil => exact .nil
  | cons c text ih => exact .cons (.char c) ih

/-- Text without quotes, backslashes and control characters may be written as it is. -/
theorem isPieces_char {text : List Char}
    (h : ∀ c ∈ text, c ≠ '"' ∧ c ≠ '\\' ∧ 0x20 ≤ c.toNat) :
    IsPieces (text.map .char) text := by
  induction text with
  | nil => exact .nil
  | cons c text ih =>
    obtain ⟨⟨hquote, hbackslash, hcontrol⟩, hrest⟩ := List.forall_mem_cons.mp h
    exact .cons (.plain hquote hbackslash hcontrol) (ih hrest)

/-! ## Members of an object -/

/-- The members that an object has for one name: none, or one whose value is as it should
    be. -/
inductive Gives {α : Type} (name : String) (Writes : α → Value → Prop) :
    Option α → List Member → Prop where
  | absent : Gives name Writes none []
  | given {a : α} {value : Value} {pieces : List Piece}
      (hname : SpellsText name.toList pieces) (hvalue : Writes a value) :
      Gives name Writes (some a) [(pieces, value)]

/-- Members whose names are none of those that are known. -/
def Others (known : List String) (members : List Member) : Prop :=
  ∀ member ∈ members, ∃ name, SpellsText name member.1 ∧ ∀ other ∈ known, name ≠ other.toList

theorem valuesOf_append (name : String) (members members' : List Member) :
    valuesOf name (members ++ members') = valuesOf name members ++ valuesOf name members' := by
  induction members with
  | nil => rfl
  | cons member members ih =>
    rw [List.cons_append, valuesOf, valuesOf, ih]
    split <;> rfl

theorem valuesOf_flatMap_eq_nil {α : Type} {name : String} {own : α → List Member} {xs : List α}
    (h : ∀ x ∈ xs, valuesOf name (own x) = []) : valuesOf name (xs.flatMap own) = [] := by
  induction xs with
  | nil => rfl
  | cons x xs ih =>
    obtain ⟨hfirst, hrest⟩ := List.forall_mem_cons.mp h
    rw [List.flatMap_cons, valuesOf_append, hfirst, ih hrest, List.nil_append]

theorem valuesOf_perm (name : String) {members members' : List Member}
    (h : members.Perm members') : (valuesOf name members).Perm (valuesOf name members') := by
  induction h with
  | nil => exact .nil
  | cons member _ ih =>
    rw [valuesOf, valuesOf]
    split
    · exact ih.cons _
    · exact ih
  | swap first second members =>
    simp only [valuesOf]
    split <;> split
    · exact .swap ..
    all_goals exact .refl _
  | trans _ _ ih ih' => exact ih.trans ih'

theorem Others.valuesOf_eq_nil {known : List String} {members : List Member}
    (h : Others known members) {name : String} (hname : name ∈ known) :
    valuesOf name members = [] := by
  induction members with
  | nil => rfl
  | cons member members ih =>
    obtain ⟨⟨spelled, hspells, hne⟩, hrest⟩ := List.forall_mem_cons.mp h
    rw [valuesOf, hspells.unescape?_eq, if_neg, ih hrest]
    exact fun heq => hne name hname (Option.some.inj heq)

theorem Others.named {known : List String} {members : List Member} (h : Others known members) :
    Named members := by
  intro member hmember
  obtain ⟨name, hspells, -⟩ := h member hmember
  rw [hspells.unescape?_eq]
  rfl

section
variable {α : Type} {name : String} {Writes : α → Value → Prop} {a : Option α}
  {own : List Member}

theorem Gives.named (h : Gives name Writes a own) : Named own := by
  cases h with
  | absent => exact named_nil
  | given hname => exact named_cons_iff.mpr ⟨by simp [hname.unescape?_eq], named_nil⟩

theorem Gives.valuesOf_of_ne (h : Gives name Writes a own) {other : String}
    (hother : other ≠ name) : valuesOf other own = [] := by
  cases h with
  | absent => rfl
  | given hname =>
    rw [valuesOf, hname.unescape?_eq, if_neg, valuesOf]
    exact fun heq => hother (String.toList_inj.mp (Option.some.inj heq)).symm

/-- Wherever the members for a name stand among others, they are all that it leads to. -/
theorem Gives.valuesOf_eq (h : Gives name Writes a own) {members rest : List Member}
    (hperm : members.Perm (own ++ rest)) (hrest : valuesOf name rest = []) :
    valuesOf name members = valuesOf name own := by
  have hvalues := valuesOf_perm name hperm
  rw [valuesOf_append, hrest, List.append_nil] at hvalues
  cases h with
  | absent => exact List.perm_nil.mp hvalues
  | given hname =>
    rw [valuesOf, hname.unescape?_eq, if_pos rfl, valuesOf] at hvalues ⊢
    exact List.perm_singleton.mp hvalues

/-- Wherever a member stands among others, its name leads to what it says. -/
theorem Gives.member?_eq {β : Type} {meaning? : Value → Option β} {f : α → β} {default : β}
    (h : Gives name Writes a own)
    (hmeaning : ∀ a value, Writes a value → meaning? value = some (f a))
    {members rest : List Member} (hperm : members.Perm (own ++ rest))
    (hrest : valuesOf name rest = []) :
    member? name meaning? default members = some (a.elim default f) := by
  rw [member?, h.valuesOf_eq hperm hrest]
  cases h with
  | absent => rfl
  | @given a value pieces hname hvalue =>
    rw [valuesOf, hname.unescape?_eq, if_pos rfl, valuesOf]
    exact hmeaning a value hvalue

end

/-! ## Writing on one line -/

/-- The digit of a number below sixteen. -/
theorem hexDigit?_digitChar : ∀ d < 16, Text.hexDigit? (Nat.digitChar d) = some d := by
  decide

/-- A control character is written by its number. -/
theorem isPiece_of_control {c : Char} (h : c.toNat < 0x20) :
    IsPiece (.unit c.toNat)
      ['\\', 'u', '0', '0', Nat.digitChar (c.toNat / 16), Nat.digitChar (c.toNat % 16)] := by
  have hnumber : ((0 * 16 + 0) * 16 + c.toNat / 16) * 16 + c.toNat % 16 = c.toNat := by omega
  have hpiece := IsPiece.unit (show Text.hexDigit? '0' = some 0 from rfl)
    (show Text.hexDigit? '0' = some 0 from rfl) (hexDigit?_digitChar (c.toNat / 16) (by omega))
    (hexDigit?_digitChar (c.toNat % 16) (by omega))
  rwa [hnumber] at hpiece

/-- Every character can be written in a string, and without a line end. -/
theorem exists_isPiece (c : Char) :
    ∃ piece written, Spells c [piece] ∧ IsPiece piece written ∧ '\n' ∉ written := by
  by_cases hcontrol : c.toNat < 0x20
  · refine ⟨_, _, .unit (by omega), isPiece_of_control hcontrol, ?_⟩
    have hdigits : ∀ d < 16, Nat.digitChar d ≠ '\n' := by decide
    simp [(hdigits (c.toNat / 16) (by omega)).symm, (hdigits (c.toNat % 16) (by omega)).symm]
  · by_cases hquote : c = '"'
    · exact ⟨_, _, .char c, .escape (show (c, c) ∈ escapes by simp [hquote, escapes]),
        by simp [hquote]⟩
    by_cases hbackslash : c = '\\'
    · exact ⟨_, _, .char c, .escape (show (c, c) ∈ escapes by simp [hbackslash, escapes]),
        by simp [hbackslash]⟩
    · have hline : '\n' ≠ c := by
        rintro rfl
        exact hcontrol (by decide)
      exact ⟨_, _, .char c, .plain hquote hbackslash (Nat.not_lt.mp hcontrol), by simp [hline]⟩

theorem exists_isPieces (text : List Char) :
    ∃ pieces written, SpellsText text pieces ∧ IsPieces pieces written ∧ '\n' ∉ written := by
  induction text with
  | nil => exact ⟨[], [], .nil, .nil, List.not_mem_nil⟩
  | cons c text ih =>
    obtain ⟨piece, written, hspells, hpiece, hline⟩ := exists_isPiece c
    obtain ⟨pieces, rest, htext, hpieces, hrest⟩ := ih
    exact ⟨_, _, .cons hspells htext, .cons hpiece hpieces, by simp [hline, hrest]⟩

section
variable {α : Type} {Item : α → List Char → Prop} {close : Char}

/-- Items that can be written on one line can be written so between brackets. -/
theorem exists_body (hclose : '\n' ≠ close) {xs : List α}
    (h : ∀ x ∈ xs, ∃ written, Item x written ∧ '\n' ∉ written) :
    ∃ body, Body Item close xs body ∧ '\n' ∉ body := by
  have htail : ∀ xs : List α, (∀ x ∈ xs, ∃ written, Item x written ∧ '\n' ∉ written) →
      ∃ tail, Tail Item close xs tail ∧ '\n' ∉ tail := by
    intro xs hxs
    induction xs with
    | nil => exact ⟨_, .close spaces_nil, by simpa using hclose⟩
    | cons x xs ih =>
      obtain ⟨⟨written, hitem, hline⟩, hothers⟩ := List.forall_mem_cons.mp hxs
      obtain ⟨tail, htail, hrest⟩ := ih hothers
      exact ⟨_, .item spaces_nil spaces_nil hitem htail, by simp [hline, hrest]⟩
  cases xs with
  | nil => exact ⟨_, .empty spaces_nil, by simpa using hclose⟩
  | cons x xs =>
    obtain ⟨⟨written, hitem, hline⟩, hothers⟩ := List.forall_mem_cons.mp h
    obtain ⟨tail, htail, hrest⟩ := htail xs hothers
    exact ⟨_, .items spaces_nil hitem htail, by simp [hline, hrest]⟩

end

end TestCoverage.Json
