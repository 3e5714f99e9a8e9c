/-
  TestCoverage.Proofs.Json.Members

  The members of an object may stand in any order.  The fields are put into a record as the
  members come; when setting one field does not touch the others, the result is that of
  looking up each field by its name.
-/
import TestCoverage.Proofs.Json.Record

namespace TestCoverage.Json

/-! ## Looking up a name -/

/-- The values of the members that have this name once it is unescaped. -/
def valuesOf (name : String) : List Member → List Value
  | [] => []
  | (pieces, value) :: members =>
    if unescape? pieces = some name.toList then value :: valuesOf name members
    else valuesOf name members

/-- What the members say of one name, which no two of them may have. -/
def member? {α : Type} (name : String) (meaning? : Value → Option α) (default : α)
    (members : List Member) : Option α :=
  match valuesOf name members with
  | [] => some default
  | [value] => meaning? value
  | _ => none

/-- What is said of a name does not depend on the order of its values: where there are two of
    them, nothing is said. -/
theorem member?_eq_of_perm {α : Type} {name : String} {members members' : List Member}
    (meaning? : Value → Option α) (default : α)
    (h : (valuesOf name members).Perm (valuesOf name members')) :
    member? name meaning? default members = member? name meaning? default members' := by
  rw [member?, member?]
  generalize valuesOf name members = values at h
  generalize valuesOf name members' = values' at h
  rcases values with _ | ⟨value, _ | ⟨second, values⟩⟩
  · rw [List.nil_perm.mp h]
  · rw [List.singleton_perm.mp h]
  · rcases values' with _ | ⟨value', _ | ⟨second', values'⟩⟩
    · cases h.eq_nil
    · cases List.perm_singleton.mp h
    · rfl

/-- Every member has a name that stands for a text. -/
def Named (members : List Member) : Prop :=
  ∀ member ∈ members, (unescape? member.1).isSome

instance (members : List Member) : Decidable (Named members) :=
  inferInstanceAs (Decidable (∀ member ∈ members, _))

theorem named_nil : Named [] :=
  List.forall_mem_nil _

theorem named_cons_iff {pieces : List Piece} {value : Value} {members : List Member} :
    Named ((pieces, value) :: members) ↔ (unescape? pieces).isSome ∧ Named members :=
  List.forall_mem_cons

/-! ## One field -/

section
variable {σ : Type}

/-- One field of a record, from all the members that are still to come. -/
def FieldMeaning.assign? (field : FieldMeaning σ) (given : List String)
    (members : List Member) (record : σ) : Option σ :=
  match valuesOf field.name members with
  | [] => some record
  | [value] => if field.name ∈ given then none else field.put? record value
  | _ => none

theorem FieldMeaning.assign?_cons_of_ne {field : FieldMeaning σ} {pieces : List Piece}
    (h : unescape? pieces ≠ some field.name.toList) (given : List String) (value : Value)
    (members : List Member) :
    field.assign? given ((pieces, value) :: members) = field.assign? given members := by
  funext record
  rw [assign?, assign?, valuesOf, if_neg h]

/-- The first member of the name is the only one. -/
theorem FieldMeaning.assign?_cons_of_eq {field : FieldMeaning σ} {pieces : List Piece}
    (h : unescape? pieces = some field.name.toList) {given : List String}
    (hgiven : field.name ∉ given) (value : Value) (members : List Member) (record : σ) :
    field.assign? given ((pieces, value) :: members) record =
      (field.put? record value).bind (field.assign? (field.name :: given) members) := by
  rw [assign?, valuesOf, if_pos h]
  unfold assign?
  rcases valuesOf field.name members with _ | ⟨second, _ | ⟨third, others⟩⟩
  · simp [hgiven]
  · simp
  · simp

theorem FieldMeaning.assign?_cons_of_mem {field : FieldMeaning σ} {pieces : List Piece}
    (h : unescape? pieces = some field.name.toList) {given : List String}
    (hgiven : field.name ∈ given) (value : Value) (members : List Member) (record : σ) :
    field.assign? given ((pieces, value) :: members) record = none := by
  rw [assign?, valuesOf, if_pos h]
  rcases valuesOf field.name members with _ | ⟨second, others⟩ <;> simp [hgiven]

theorem FieldMeaning.assign?_given_cons {field : FieldMeaning σ} {name : String}
    (h : field.name ≠ name) (given : List String) (members : List Member) :
    field.assign? (name :: given) members = field.assign? given members := by
  funext record
  simp [assign?, h]

/-- The two fields can be set in either order. -/
def FieldMeaning.Commutes (a b : FieldMeaning σ) : Prop :=
  ∀ record v w, (a.put? record v).bind (b.put? · w) = (b.put? record w).bind (a.put? · v)

theorem FieldMeaning.Commutes.assign? {a b : FieldMeaning σ} (h : a.Commutes b)
    (given : List String) (members : List Member) (record : σ) (v : Value) :
    (a.put? record v).bind (b.assign? given members) =
      (b.assign? given members record).bind (a.put? · v) := by
  unfold FieldMeaning.assign?
  rcases valuesOf b.name members with _ | ⟨value, _ | ⟨second, others⟩⟩
  · simp
  · by_cases hgiven : b.name ∈ given
    · simp [hgiven]
    · simpa [hgiven] using h record v value
  · simp

/-! ## All fields -/

/-- Each field in turn, from all the members that are still to come. -/
def assignAll? (fields : List (FieldMeaning σ)) (given : List String)
    (members : List Member) (record : σ) : Option σ :=
  match fields with
  | [] => some record
  | field :: fields =>
    (field.assign? given members record).bind (assignAll? fields given members)

theorem assignAll?_congr {fields : List (FieldMeaning σ)} {given given' : List String}
    {members members' : List Member}
    (h : ∀ field ∈ fields, field.assign? given members = field.assign? given' members') :
    assignAll? fields given members = assignAll? fields given' members' := by
  induction fields with
  | nil => rfl
  | cons field fields ih =>
    rw [List.forall_mem_cons] at h
    funext record
    rw [assignAll?, assignAll?, h.1, ih h.2]

/-- The fields have different names and can be set in any order. -/
def Independent (fields : List (FieldMeaning σ)) : Prop :=
  fields.Pairwise fun a b => a.name ≠ b.name ∧ b.Commutes a

/-- The first member can be put into the record before all others. -/
theorem assignAll?_cons_of_mem {fields : List (FieldMeaning σ)} (hfields : Independent fields)
    {field : FieldMeaning σ} (hfield : field ∈ fields) {pieces : List Piece}
    (h : unescape? pieces = some field.name.toList) {given : List String}
    (hgiven : field.name ∉ given) (value : Value) (members : List Member) (record : σ) :
    assignAll? fields given ((pieces, value) :: members) record =
      (field.put? record value).bind (assignAll? fields (field.name :: given) members) := by
  -- The other fields see neither the member nor that its field has been given.
  have hother : ∀ other : FieldMeaning σ, other.name ≠ field.name →
      other.assign? given ((pieces, value) :: members) =
        other.assign? (field.name :: given) members := by
    intro other hne
    rw [other.assign?_given_cons hne, other.assign?_cons_of_ne]
    rw [h]
    intro heq
    exact hne (String.toList_inj.mp (Option.some.inj heq)).symm
  induction fields generalizing record with
  | nil => cases hfield
  | cons first fields ih =>
    obtain ⟨hfirst, hrest⟩ := List.pairwise_cons.mp hfields
    rw [assignAll?]
    rcases List.mem_cons.mp hfield with rfl | hfield
    · -- It is the turn of the field itself.
      rw [field.assign?_cons_of_eq h hgiven, Option.bind_assoc]
      have hcongr := assignAll?_congr fun other hmem => hother other (hfirst other hmem).1.symm
      simp only [assignAll?, hcongr]
    · -- The field comes later, and is set before the first one instead.
      obtain ⟨hne, hcommutes⟩ := hfirst field hfield
      rw [hother first hne]
      calc (first.assign? (field.name :: given) members record).bind
            (assignAll? fields given ((pieces, value) :: members))
          = (first.assign? (field.name :: given) members record).bind fun record =>
              (field.put? record value).bind
                (assignAll? fields (field.name :: given) members) := by
            congr 1
            funext record
            exact ih hrest hfield record
        _ = ((field.put? record value).bind
              (first.assign? (field.name :: given) members)).bind
                (assignAll? fields (field.name :: given) members) := by
            rw [hcommutes.assign?, Option.bind_assoc]
        _ = (field.put? record value).bind
              (assignAll? (first :: fields) (field.name :: given) members) := by
            rw [Option.bind_assoc]
            rfl

theorem assignAll?_cons_of_given {fields : List (FieldMeaning σ)} {field : FieldMeaning σ}
    (hfield : field ∈ fields) {pieces : List Piece}
    (h : unescape? pieces = some field.name.toList) {given : List String}
    (hgiven : field.name ∈ given) (value : Value) (members : List Member) (record : σ) :
    assignAll? fields given ((pieces, value) :: members) record = none := by
  induction fields generalizing record with
  | nil => cases hfield
  | cons first fields ih =>
    rw [assignAll?]
    rcases List.mem_cons.mp hfield with rfl | hfield
    · rw [field.assign?_cons_of_mem h hgiven]
      rfl
    · simp [funext (ih hfield)]

/-- The order of the members does not matter. -/
theorem putMembers?_eq_assignAll? {fields : List (FieldMeaning σ)} (hfields : Independent fields)
    (given : List String) (members : List Member) (record : σ) :
    putMembers? fields given record members =
      if Named members then assignAll? fields given members record else none := by
  induction members generalizing given record with
  | nil =>
    have hnil : assignAll? fields given [] record = some record := by
      induction fields with
      | nil => rfl
      | cons field fields ih => exact ih (List.Pairwise.of_cons hfields)
    rw [hnil, if_pos named_nil]
    rfl
  | cons member members ih =>
    obtain ⟨pieces, value⟩ := member
    rw [putMembers?_cons, putMember?]
    cases hkey : unescape? pieces with
    | none => simp [named_cons_iff, hkey]
    | some key =>
      simp only [named_cons_iff, hkey, Option.isSome_some, true_and, Option.bind_some]
      cases hfind : fields.find? fun field => field.name.toList == key with
      | none =>
        have hcongr : assignAll? fields given ((pieces, value) :: members) =
            assignAll? fields given members := by
          refine assignAll?_congr fun field hfield => field.assign?_cons_of_ne ?_ ..
          rw [hkey]
          rintro ⟨⟩
          simpa using List.find?_eq_none.mp hfind field hfield
        simpa [hcongr] using ih given record
      | some field =>
        have hfield := List.mem_of_find?_eq_some hfind
        obtain rfl : field.name.toList = key := by simpa using List.find?_some hfind
        by_cases hgiven : field.name ∈ given
        · simp [hgiven, assignAll?_cons_of_given hfield hkey hgiven]
        · rw [assignAll?_cons_of_mem hfields hfield hkey hgiven]
          simp only [hgiven, if_false]
          cases field.put? record value with
          | none => simp
          | some record => simpa using ih (field.name :: given) record

/-- A record in an object: every name can be read, and each field is looked up by its own. -/
theorem record?_object {fields : List (FieldMeaning σ)} (hfields : Independent fields)
    (default : σ) (members : List Member) :
    record? fields default (.object members) =
      if Named members then assignAll? fields [] members default else none :=
  putMembers?_eq_assignAll? hfields [] members default

/-- A field that is looked up keeps what it was if it is not given. -/
theorem FieldMeaning.of_assign? {α : Type} (name : String) (meaning? : Value → Option α)
    (set : α → σ → σ) {record : σ} {old : α} (hold : set old record = record)
    (members : List Member) :
    (FieldMeaning.of name meaning? set).assign? [] members record =
      (member? name meaning? old members).map (set · record) := by
  rw [assign?, member?]
  change (match valuesOf name members with | [] => _ | [value] => _ | _ => none) = _
  rcases valuesOf name members with _ | ⟨value, _ | ⟨second, others⟩⟩
  · simp [hold]
  · simp [FieldMeaning.of]
  · rfl

/-- Fields that are set to what their values mean commute if setting them does. -/
theorem FieldMeaning.of_commutes {α β : Type} {nameA nameB : String}
    {meaningA? : Value → Option α} {meaningB? : Value → Option β} {setA : α → σ → σ}
    {setB : β → σ → σ} (hset : ∀ a b record, setB b (setA a record) = setA a (setB b record)) :
    (FieldMeaning.of nameA meaningA? setA).Commutes (.of nameB meaningB? setB) := by
  intro record v w
  cases hv : meaningA? v <;> cases hw : meaningB? w <;> simp [FieldMeaning.of, hv, hw, hset]

end

end TestCoverage.Json
