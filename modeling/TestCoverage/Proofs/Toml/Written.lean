/-
  TestCoverage.Proofs.Toml.Written

  A document that is written line by line is read back: a header, or a key with a string or
  a truth value, on each line.
-/
import TestCoverage.Proofs.Entries
import TestCoverage.Toml.Document
import Mathlib.Tactic.Common

namespace TestCoverage.Toml

/-! ## Strings -/

/-- A hexadecimal digit. -/
def hexDigit (n : Nat) : Char :=
  Nat.digitChar (n % 16)

/-- A character in a string: quotes, backslashes and controls are written by their number. -/
def escaped (c : Char) : List Char :=
  if c = '"' ∨ c = '\\' ∨ isPlain c = false then
    ['\\', 'u', '0', '0', hexDigit (c.toNat / 16), hexDigit c.toNat]
  else [c]

/-- A string on one line. -/
def quoted (text : List Char) : List Char :=
  '"' :: (text.flatMap escaped ++ ['"'])

/-- Characters that are written by their number have a small one. -/
theorem toNat_lt_of_not_isPlain {c : Char} (h : c = '"' ∨ c = '\\' ∨ isPlain c = false) :
    c.toNat < 0x80 := by
  rcases h with rfl | rfl | h
  · decide
  · decide
  · simp [isPlain] at h
    by_contra hbig
    have := h.2 (by omega)
    omega

theorem hexChar?_hexDigit {c : Char} (h : c.toNat < 0x80) :
    hexChar? ['0', '0', hexDigit (c.toNat / 16), hexDigit c.toNat] = some c := by
  have hall : ∀ n < 0x80, hexChar? ['0', '0', hexDigit (n / 16), hexDigit n] =
      some (Char.ofNat n) := by decide
  rw [hall _ h, Char.ofNat_toNat]

theorem readBasic_quote (rest : List Char) : readBasic ('"' :: rest) = some ([], rest) := by
  rw [readBasic.eq_def]
  rfl

theorem readBasic_of_isPlain {c : Char} (hquote : c ≠ '"') (hslash : c ≠ '\\')
    (hplain : isPlain c = true) (rest : List Char) :
    readBasic (c :: rest) = cons c (readBasic rest) := by
  rw [readBasic.eq_def]
  simp only [hquote, hslash, hplain, if_true, if_false]

theorem readBasic_escaped (c : Char) (rest : List Char) :
    readBasic (escaped c ++ rest) = cons c (readBasic rest) := by
  unfold escaped
  split_ifs with h
  · simp [readBasic, hexChar?_hexDigit (toNat_lt_of_not_isPlain h)]
  · simp only [not_or, Bool.not_eq_false] at h
    exact readBasic_of_isPlain h.1 h.2.1 h.2.2 rest

/-- A string is read back to its closing quote. -/
theorem readBasic_flatMap_escaped (text rest : List Char) :
    readBasic (text.flatMap escaped ++ '"' :: rest) = some (text, rest) := by
  induction text with
  | nil => exact readBasic_quote rest
  | cons c text ih =>
    rw [List.flatMap_cons, List.append_assoc, readBasic_escaped, ih]
    rfl

/-- A string of one line is not taken for one of several lines if two more quotes do not
    follow its first one. -/
theorem readString_of_ne {text : List Char} (h : ∀ rest, text ≠ '"' :: '"' :: rest) :
    readString ('"' :: text) = readBasic text := by
  rw [readString.eq_def]
  split
  · next heq => exact absurd (List.cons.inj heq).2 (h _)
  · next heq => exact absurd (List.cons.inj heq).1 (by decide)
  · rfl

theorem escaped_ne (c : Char) (text rest : List Char) : escaped c ++ text ≠ '"' :: rest := by
  unfold escaped
  split_ifs with h
  · simp
  · simp only [not_or] at h
    simp [h.1]

theorem readString_quoted (text : List Char) {rest : List Char}
    (hrest : ∀ rest', rest ≠ '"' :: rest') :
    readString (quoted text ++ rest) = some (text, rest) := by
  have hquoted : quoted text ++ rest = '"' :: (text.flatMap escaped ++ '"' :: rest) := by
    simp [quoted]
  rw [hquoted, readString_of_ne, readBasic_flatMap_escaped]
  intro rest'
  cases text with
  | nil => simpa using hrest rest'
  | cons c text =>
    rw [List.flatMap_cons, List.append_assoc]
    exact escaped_ne c _ _

theorem readValue_quoted (text : List Char) {rest : List Char}
    (hrest : ∀ rest', rest ≠ '"' :: rest') :
    readValue (quoted text ++ rest) = some (.string (String.ofList text), rest) := by
  have hscalar : readValue (quoted text ++ rest) =
      (readString (quoted text ++ rest)).map fun read =>
        (.string (String.ofList read.1), read.2) := rfl
  rw [hscalar, readString_quoted text hrest, Option.map_some]

/-! ## Statements -/

/-- The text has these statements, whatever bound its length keeps. -/
def ReadsAs (text : List Char) (statements : List Statement) : Prop :=
  ∀ bound, text.length < bound → readStatements bound text = some statements

theorem readsAs_nil : ReadsAs [] [] := by
  rintro (_ | bound) hbound
  · exact absurd hbound (Nat.not_lt_zero _)
  · rfl

theorem ReadsAs.header {text rest : List Char} {statement : Statement}
    {statements : List Statement} (hheader : readHeader text = some (statement, rest))
    (hlength : rest.length ≤ text.length) (hrest : ReadsAs rest statements) :
    ReadsAs ('[' :: text) (statement :: statements) := by
  rintro (_ | bound) hbound
  · exact absurd hbound (Nat.not_lt_zero _)
  · have hread : readStatements bound rest = some statements :=
      hrest bound (Nat.lt_of_le_of_lt hlength (Nat.lt_of_succ_lt_succ hbound))
    have hspace : skipSpace ('[' :: text) = '[' :: text := rfl
    simp [readStatements, hspace, hheader, hread]

theorem ReadsAs.assignment {c : Char} {text rest : List Char} {statement : Statement}
    {statements : List Statement} (hspace : isSpace c = false)
    (hc : c ≠ '#' ∧ c ≠ '\n' ∧ c ≠ '\r' ∧ c ≠ '[')
    (hassignment : readAssignment (c :: text) = some (statement, rest))
    (hlength : rest.length ≤ text.length) (hrest : ReadsAs rest statements) :
    ReadsAs (c :: text) (statement :: statements) := by
  rintro (_ | bound) hbound
  · exact absurd hbound (Nat.not_lt_zero _)
  · have hread : readStatements bound rest = some statements :=
      hrest bound (Nat.lt_of_le_of_lt hlength (Nat.lt_of_succ_lt_succ hbound))
    have hskip : skipSpace (c :: text) = c :: text := by
      rw [skipSpace, List.dropWhile_cons, hspace]
      rfl
    simp [readStatements, hskip, hc, hassignment, hread]

/-! ## Carrying statements out -/

theorem Draft.assign_of_notMem {draft : Draft} {name : String}
    (h : name ∉ draft.map Prod.fst) (value : Value) :
    draft.assign [name] value = some (draft ++ [(name, .value value)]) := by
  simp [assign, update, Entries.get?_of_notMem h, Entries.set_of_notMem h]

theorem Draft.section?_of_notMem {draft : Draft} {name : String}
    (h : name ∉ draft.map Prod.fst) {fill : Draft → Option Draft} {inner : Draft}
    (hfill : fill [] = some inner) :
    draft.section? false [name] fill = some (draft ++ [(name, .table false false inner)]) := by
  simp [section?, update, Entries.get?_of_notMem h, Entries.set_of_notMem h, hfill]

/-- The keys of values, and the values. -/
def pairs (members : List (String × Value)) : List (Key × Value) :=
  members.map fun member => ([member.1], member.2)

/-- The statements that give keys their values. -/
def assignments (members : List (String × Value)) : List Statement :=
  members.map fun member => .entry [member.1] member.2

/-- The unfinished table of the values. -/
def drafted (members : List (String × Value)) : Draft :=
  members.map fun member => (member.1, .value member.2)

/-- Entries with different names are all kept, in order. -/
theorem assignAll_pairs (members : List (String × Value)) {draft : Draft}
    (h : (draft.map Prod.fst ++ members.map Prod.fst).Nodup) :
    assignAll (pairs members) draft = some (draft ++ drafted members) := by
  induction members generalizing draft with
  | nil => simp [assignAll, pairs, drafted]
  | cons member members ih =>
    obtain ⟨name, value⟩ := member
    have hname : name ∉ draft.map Prod.fst := fun hmem =>
      (List.nodup_append.mp h).2.2 _ hmem _ List.mem_cons_self rfl
    have hnodup : ((draft ++ [(name, Node.value value)]).map Prod.fst ++
        members.map Prod.fst).Nodup := by
      simpa using h
    have hstep : assignAll (pairs ((name, value) :: members)) draft =
        (draft.assign [name] value).bind (assignAll (pairs members)) := rfl
    rw [hstep, Draft.assign_of_notMem hname, Option.bind_some, ih hnodup]
    simp [drafted]

/-- The entries of a header end at the next one. -/
theorem leadingEntries_assignments (members : List (String × Value)) {rest : List Statement}
    (hrest : leadingEntries rest = ([], rest)) :
    leadingEntries (assignments members ++ rest) = (pairs members, rest) := by
  induction members with
  | nil => exact hrest
  | cons member members ih =>
    rw [assignments] at ih ⊢
    rw [List.map_cons, List.cons_append, leadingEntries, ih, pairs, pairs, List.map_cons]

theorem carryOut_assignments (members : List (String × Value)) (rest : List Statement)
    (draft : Draft) : carryOut (assignments members ++ rest) draft = carryOut rest draft := by
  induction members with
  | nil => rfl
  | cons member members ih => exact ih

/-- A header and its entries are one more table. -/
theorem carryOut_table {name : String} {members : List (String × Value)}
    (hmembers : (members.map Prod.fst).Nodup) {rest : List Statement}
    (hrest : leadingEntries rest = ([], rest)) {draft : Draft}
    (hname : name ∉ draft.map Prod.fst) :
    carryOut (.table [name] :: (assignments members ++ rest)) draft =
      carryOut rest (draft ++ [(name, .table false false (drafted members))]) := by
  have hfill := @assignAll_pairs members [] (by simpa using hmembers)
  rw [carryOut, leadingEntries_assignments members hrest,
    Draft.section?_of_notMem hname hfill]
  exact carryOut_assignments members rest _

/-! ## Finished values -/

theorem toValues_drafted (members : List (String × Value)) :
    Node.toValues (drafted members) = members := by
  induction members with
  | nil => rfl
  | cons member members ih =>
    rw [drafted] at ih ⊢
    rw [List.map_cons, Node.toValues, Node.toValue, ih]

/-- A table of values that stand for themselves does so too. -/
theorem resolve?_table {entries : List (String × Value)}
    (h : ∀ entry ∈ entries, entry.1 ≠ momentKey ∧ entry.2.resolve? = some entry.2) :
    Value.resolve? (.table entries) = some (.table entries) := by
  have hentries : ∀ {entries : List (String × Value)},
      (∀ entry ∈ entries, entry.2.resolve? = some entry.2) →
        Value.resolveEntries? entries = some entries := by
    intro entries h
    induction entries with
    | nil => rfl
    | cons entry entries ih =>
      obtain ⟨hentry, hrest⟩ := List.forall_mem_cons.mp h
      simp [Value.resolveEntries?, hentry, ih hrest]
  cases entries with
  | nil => simp [Value.resolve?]
  | cons entry entries =>
    obtain ⟨⟨hname, hentry⟩, hrest⟩ := List.forall_mem_cons.mp h
    simp [Value.resolve?, hname, hentry, hentries fun entry hmem => (hrest entry hmem).2]

end TestCoverage.Toml
