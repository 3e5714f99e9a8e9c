/-
  TestCoverage.Proofs.Json.Objects

  Records that are read from objects.  The fields of a record are given by their names and by
  what a value means for each of them.  The members are taken as they come: a field may not
  be given twice, and a member that names no field is passed over.
-/
import Mathlib.Data.List.Forall2
import TestCoverage.Proofs.Json.Ignored
import TestCoverage.Proofs.Json.Readers

namespace TestCoverage.Json

/-! ## What members mean -/

/-- A field of a record: its name, and the record with the field set from a value. -/
structure FieldMeaning (σ : Type) where
  name : String
  put? : σ → Value → Option σ

/-- A field that is set to what the value means. -/
def FieldMeaning.of {σ α : Type} (name : String) (meaning? : Value → Option α)
    (set : α → σ → σ) : FieldMeaning σ where
  name := name
  put? record value := (meaning? value).map (set · record)

section
variable {σ : Type}

/-- One more member of an object, where some fields have been given already. -/
def putMember? (fields : List (FieldMeaning σ)) (state : List String × σ) (member : Member) :
    Option (List String × σ) :=
  (unescape? member.1).bind fun key =>
    match fields.find? fun field => field.name.toList == key with
    | none => some state
    | some field =>
      if field.name ∈ state.1 then none
      else (field.put? state.2 member.2).map fun record => (field.name :: state.1, record)

/-- The record with the fields that the members give. -/
def putMembers? (fields : List (FieldMeaning σ)) (given : List String) (record : σ)
    (members : List Member) : Option σ :=
  (members.foldlM (putMember? fields) (given, record)).map (·.2)

theorem putMembers?_cons (fields : List (FieldMeaning σ)) (given : List String) (record : σ)
    (member : Member) (members : List Member) :
    putMembers? fields given record (member :: members) =
      (putMember? fields (given, record) member).bind fun state =>
        putMembers? fields state.1 state.2 members := by
  rw [putMembers?, List.foldlM_cons, Option.bind_eq_bind, Option.map_bind]
  rfl

/-- The field is read as the meaning says. -/
def Field.Means (field : Field σ) (meaning : FieldMeaning σ) : Prop :=
  field.name = meaning.name ∧ ∀ record, Reads (field.read record) (meaning.put? record)

theorem Field.of_means {α : Type} {read : Reader α} {meaning? : Value → Option α}
    (hread : Reads read meaning?) (name : String) (set : α → σ → σ) :
    (Field.of name read set).Means (.of name meaning? set) :=
  ⟨rfl, fun record => hread.map (set · record)⟩

/-! ## Members -/

theorem nextMember_eq_last_iff {isFirst : Bool} {text rest : List Char} :
    nextMember isFirst text = .ok (.last rest) ↔
      ∃ space, Spaces space ∧ text = space ++ '\x7d' :: rest := by
  rw [← skipSpace_eq_cons_iff (by decide)]
  unfold nextMember
  split
  · next hnil => simp [hnil]
  · next c behind hcons =>
    rw [hcons]
    by_cases hc : c = '\x7d'
    · simp [hc]
    · -- Whatever else comes next, it is not the end.
      simp only [hc, if_false]
      split
      · split <;> simp [hc]
      split
      · split
        · simp [hc]
        · split
          · simp [hc]
          · split <;> simp [hc]
      · simp [hc]

/-- The first member begins with the quote of its name. -/
theorem nextMember_true_eq_more_iff {text rest : List Char} :
    nextMember true text = .ok (.more rest) ↔
      ∃ space, Spaces space ∧ text = space ++ '"' :: rest := by
  rw [← skipSpace_eq_cons_iff (by decide)]
  unfold nextMember
  split
  · next hnil => simp [hnil]
  · next c behind hcons =>
    rw [hcons]
    by_cases hclosing : c = '\x7d'
    · simp [hclosing]
    · by_cases hc : c = '"' <;> simp [hclosing, hc]

/-- Any other member stands behind a comma. -/
theorem nextMember_false_eq_more_iff {text rest : List Char} :
    nextMember false text = .ok (.more rest) ↔
      ∃ space space', Spaces space ∧ Spaces space' ∧
        text = space ++ ',' :: (space' ++ '"' :: rest) := by
  constructor
  · intro h
    obtain ⟨space, hspace, htext⟩ := exists_skipSpace text
    unfold nextMember at h
    split at h
    · cases h
    next c behind hcons =>
    split at h
    · cases h
    simp only [Bool.false_eq_true, if_false] at h
    split at h
    · next hcomma =>
      obtain ⟨space', hspace', hbehind⟩ := exists_skipSpace behind
      split at h
      · cases h
      next d behind' hcons' =>
      split at h
      · next hquote =>
        cases h
        exact ⟨space, space', hspace, hspace',
          by rw [htext, hcons, hcomma, ← hquote, ← hcons', ← hbehind]⟩
      · split at h <;> cases h
    · cases h
  · rintro ⟨space, space', hspace, hspace', rfl⟩
    rw [nextMember, skipSpace_append hspace, skipSpace_cons_of_not (by decide)]
    simp [skipSpace_append hspace', skipSpace_cons_of_not (show ¬ isSpace '"' by decide)]

variable {shape : Shape σ} {fields : List (FieldMeaning σ)}
  (hfields : List.Forall₂ Field.Means shape.fields fields)
include hfields

/-- A key names a field and its meaning, or neither. -/
theorem field?_cases (key : List Char) :
    (shape.field? key = none ∧ (fields.find? fun field => field.name.toList == key) = none) ∨
      ∃ field meaning, shape.field? key = some field ∧
        (fields.find? fun field => field.name.toList == key) = some meaning ∧
        field.Means meaning := by
  rw [Shape.field?]
  generalize shape.fields = own at hfields
  induction hfields with
  | nil => exact .inl ⟨rfl, rfl⟩
  | @cons field meaning own fields hmeans _ ih =>
    by_cases hkey : field.name.toList = key
    · refine .inr ⟨field, meaning, ?_, ?_, hmeans⟩
      · simp [hkey]
      · simp [← hmeans.1, hkey]
    · simpa [List.find?_cons, hkey, ← hmeans.1] using ih

/-- A member is read from behind the opening quote of its name. -/
theorem readMember_sound {given : List String} {record : σ} {state : List String × σ}
    {text rest : List Char} (h : shape.readMember given record text = .ok (state, rest)) :
    ∃ member written, IsMember member ('"' :: written) ∧
      putMember? fields (given, record) member = some state ∧ text = written ++ rest := by
  obtain ⟨⟨key, text₁⟩, hname, hfound⟩ := Except.bind_eq_ok_iff.mp h
  obtain ⟨pieces, name, hpieces, hkey, rfl⟩ := readString_sound hname
  dsimp only at hfound
  rcases field?_cases hfields key with ⟨hfield, hmeaning⟩ |
    ⟨field, meaning, hfield, hmeaning, hnames, hreads⟩
  · -- No field has the name: the value is passed over.
    rw [hfield] at hfound
    obtain ⟨text₂, hcolon, hbehind⟩ := Except.bind_eq_ok_iff.mp hfound
    obtain ⟨text₃, hskip, heq⟩ := Except.bind_eq_ok_iff.mp hbehind
    cases heq
    obtain ⟨space, hspace, rfl⟩ := readColon_eq_ok_iff.mp hcolon
    obtain ⟨space', value, written, hspace', hvalue, rfl⟩ := skipValue_sound hskip
    exact ⟨(pieces, value), _, .colon hpieces hspace hspace' hvalue,
      by simp [putMember?, hkey, hmeaning], by simp⟩
  · -- A field has the name, and has not been given yet.
    rw [hfield] at hfound
    dsimp only at hfound
    split at hfound
    · cases hfound
    · next hgiven =>
      obtain ⟨text₂, hcolon, hbehind⟩ := Except.bind_eq_ok_iff.mp hfound
      obtain ⟨⟨record', text₃⟩, hread, heq⟩ := Except.bind_eq_ok_iff.mp hbehind
      cases heq
      obtain ⟨space, hspace, rfl⟩ := readColon_eq_ok_iff.mp hcolon
      obtain ⟨space', value, written, hspace', hvalue, hput, rfl⟩ :=
        (hreads _ _ _ _).mp hread
      rw [hnames] at hgiven ⊢
      exact ⟨(pieces, value), _, .colon hpieces hspace hspace' hvalue,
        by simp [putMember?, hkey, hmeaning, hgiven, hput], by simp⟩

theorem readMember_complete {given : List String} {record : σ} {state : List String × σ}
    {member : Member} {written rest : List Char} (h : IsMember member ('"' :: written))
    (hput : putMember? fields (given, record) member = some state) (hrest : Stops rest) :
    shape.readMember given record (written ++ rest) = .ok (state, rest) := by
  cases h with
  | @colon pieces value name space space' written hpieces hspace hspace' hvalue =>
    obtain ⟨key, hkey, hput⟩ := Option.bind_eq_some_iff.mp hput
    have hname := readString_complete hpieces hkey (space ++ ':' :: (space' ++ (written ++ rest)))
    have hcolon : readColon (space ++ ':' :: (space' ++ (written ++ rest))) =
        .ok (space' ++ (written ++ rest)) := readColon_eq_ok_iff.mpr ⟨space, hspace, rfl⟩
    simp only [List.append_assoc, List.cons_append]
    rw [Shape.readMember, hname]
    rcases field?_cases hfields key with ⟨hfield, hmeaning⟩ |
      ⟨field, meaning, hfield, hmeaning, hnames, hreads⟩
    · rw [hmeaning] at hput
      cases hput
      have hskip := skipValue_complete hspace' hvalue hrest
      simp [hfield, hcolon, hskip, bind, Except.bind, pure, Except.pure]
    · rw [hmeaning] at hput
      dsimp only at hput
      split at hput
      · cases hput
      · next hgiven =>
        obtain ⟨record', hrecord, rfl⟩ := Option.map_eq_some_iff.mp hput
        have hread := (hreads record _ record' rest).mpr
          ⟨space', value, written, hspace', hvalue, hrecord, rfl⟩
        rw [← hnames] at hgiven ⊢
        simp [hfield, hgiven, hcolon, hread, bind, Except.bind, pure, Except.pure]

/-! ## Objects -/

theorem readMembers_sound {bound : Nat} {given : List String} {record record' : σ}
    {text rest : List Char}
    (h : shape.readMembers bound false given record text = .ok (record', rest)) :
    ∃ members written, Tail IsMember '\x7d' members written ∧
      putMembers? fields given record members = some record' ∧
      text = written ++ rest := by
  induction bound generalizing given record text with
  | zero => cases h
  | succ bound ih =>
    rw [Shape.readMembers] at h
    split at h
    · cases h
    · next hlast =>
      cases h
      obtain ⟨space, hspace, rfl⟩ := nextMember_eq_last_iff.mp hlast
      exact ⟨[], _, .close hspace, rfl, by simp⟩
    · next hmore =>
      obtain ⟨space, space', hspace, hspace', rfl⟩ := nextMember_false_eq_more_iff.mp hmore
      split at h
      · cases h
      · next hread =>
        obtain ⟨member, written, hmember, hput, rfl⟩ := readMember_sound hfields hread
        obtain ⟨members, tail, htail, hputs, rfl⟩ := ih h
        refine ⟨member :: members, _, .item hspace hspace' hmember htail, ?_, by simp⟩
        simpa [putMembers?_cons, hput] using hputs

theorem readMembers_complete {bound : Nat} {members : List Member} {written : List Char}
    {given : List String} {record record' : σ} (h : Tail IsMember '\x7d' members written)
    (hputs : putMembers? fields given record members = some record')
    (hbound : written.length < bound) (rest : List Char) :
    shape.readMembers bound false given record (written ++ rest) = .ok (record', rest) := by
  induction h generalizing bound given record with
  | @close space hspace =>
    obtain ⟨bound, rfl⟩ := Nat.exists_eq_succ_of_ne_zero (Nat.ne_zero_of_lt hbound)
    cases hputs
    have hlast : nextMember false (space ++ ['\x7d'] ++ rest) = .ok (.last rest) :=
      nextMember_eq_last_iff.mpr ⟨space, hspace, by simp⟩
    rw [Shape.readMembers, hlast]
  | @item space space' written tail member members hspace hspace' hmember htail ih =>
    obtain ⟨bound, rfl⟩ := Nat.exists_eq_succ_of_ne_zero (Nat.ne_zero_of_lt hbound)
    obtain ⟨name, rfl⟩ := hmember.exists_cons
    rw [putMembers?_cons, Option.bind_eq_some_iff] at hputs
    obtain ⟨⟨given', record₁⟩, hput, hputs⟩ := hputs
    simp only [List.length_append, List.length_cons] at hbound
    -- A number that is passed over ends before what stands between members.
    have hfirst := readMember_complete hfields hmember hput (htail.stops .object rest)
    have hothers := ih hputs (show tail.length < bound by omega)
    have hmore : nextMember false (space ++ ',' :: (space' ++ '"' :: (name ++ (tail ++ rest)))) =
        .ok (.more (name ++ (tail ++ rest))) :=
      nextMember_false_eq_more_iff.mpr ⟨space, space', hspace, hspace', rfl⟩
    simp only [List.append_assoc, List.cons_append]
    rw [Shape.readMembers, hmore]
    simp only [hfirst, hothers]

/-- The members behind the opening brace. -/
theorem readMembers_true_iff {bound : Nat} {text rest : List Char} {record : σ}
    (hbound : text.length ≤ bound) :
    shape.readMembers (bound + 1) true [] shape.default text = .ok (record, rest) ↔
      ∃ members body, Body IsMember '\x7d' members body ∧
        putMembers? fields [] shape.default members = some record ∧ text = body ++ rest := by
  rw [Shape.readMembers]
  constructor
  · intro h
    split at h
    · cases h
    · next hlast =>
      cases h
      obtain ⟨space, hspace, rfl⟩ := nextMember_eq_last_iff.mp hlast
      exact ⟨[], _, .empty hspace, rfl, by simp⟩
    · next hmore =>
      obtain ⟨space, hspace, rfl⟩ := nextMember_true_eq_more_iff.mp hmore
      split at h
      · cases h
      · next hread =>
        obtain ⟨member, written, hmember, hput, rfl⟩ := readMember_sound hfields hread
        obtain ⟨members, tail, htail, hputs, rfl⟩ := readMembers_sound hfields h
        refine ⟨member :: members, _, .items hspace hmember htail, ?_, by simp⟩
        simpa [putMembers?_cons, hput] using hputs
  · rintro ⟨members, body, hbody, hputs, rfl⟩
    cases hbody with
    | @empty space hspace =>
      cases hputs
      have hlast : nextMember true (space ++ ['\x7d'] ++ rest) = .ok (.last rest) :=
        nextMember_eq_last_iff.mpr ⟨space, hspace, by simp⟩
      rw [hlast]
    | @items space written tail member members hspace hmember htail =>
      obtain ⟨name, rfl⟩ := hmember.exists_cons
      rw [putMembers?_cons, Option.bind_eq_some_iff] at hputs
      obtain ⟨⟨given, record₁⟩, hput, hputs⟩ := hputs
      simp only [List.length_append, List.length_cons] at hbound
      have hfirst := readMember_complete hfields hmember hput (htail.stops .object rest)
      have hothers := readMembers_complete hfields htail hputs
        (show tail.length < bound by omega) rest
      have hmore : nextMember true (space ++ '"' :: (name ++ (tail ++ rest))) =
          .ok (.more (name ++ (tail ++ rest))) :=
        nextMember_true_eq_more_iff.mpr ⟨space, hspace, rfl⟩
      simp only [List.append_assoc, List.cons_append]
      simp only [hmore, hfirst, hothers]

end

end TestCoverage.Json
