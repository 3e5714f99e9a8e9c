/-
  TestCoverage.Proofs.Workspace

  Which documents describe a workspace, and what they say of its target directory.  Only the
  members of the document itself count, and of these only the one with the name of the field:
  the others may have any values, and the field may be written in any way.
-/
import TestCoverage.Workspace
import TestCoverage.Proofs.Artifact.Acceptance
import TestCoverage.Proofs.Json.Spelling
import TestCoverage.Proofs.Json.Unambiguous
import TestCoverage.Proofs.Text.Utf8

namespace TestCoverage.Workspace

open Json (IsDocument Member Named Piece Value option? record? unescape? valuesOf)

/-! ## Descriptions -/

/-- What an object or a list gives for the target directory, if it gives anything.  Of an object
    it is the value of the only member with that name, and of a list the only element. -/
inductive Gives : Value → Option Value → Prop where
  | object {members : List Member} {given : Option Value}
      (hvalues : valuesOf "target_directory" members = given.toList) :
      Gives (.object members) given
  | list (given : Option Value) : Gives (.list given.toList) given

/-- The target directory that is given: none, or any text. -/
inductive Names : Option Value → Option (List Char) → Prop where
  | absent : Names none none
  | null : Names (some .null) none
  | text {pieces : List Piece} {text : List Char} (htext : unescape? pieces = some text) :
      Names (some (.string pieces)) (some text)

/-- The names of an object's members all stand for texts. -/
def NamesReadable : Value → Prop
  | .object members => Named members
  | _ => True

/-- The document describes a workspace with this target directory. -/
def Describes (document : List Char) (target : Option (List Char)) : Prop :=
  ∃ value given, IsDocument value document ∧ NamesReadable value ∧ Gives value given ∧
    Names given target

/-- Values that differ in nothing that matters: objects may have other members with other names,
    and their members may stand in another order. -/
inductive Alike : Value → Value → Prop where
  | object {members members' : List Member} (hnamed : Named members ↔ Named members')
      (hvalues : (valuesOf "target_directory" members).Perm
        (valuesOf "target_directory" members')) : Alike (.object members) (.object members')
  | same (value : Value) : Alike value value

/-- An object with one member, which says nothing. -/
theorem isDocument_of_name {pieces : List Piece} {name : List Char}
    (hname : Json.IsPieces pieces name) :
    IsDocument (.object [(pieces, .null)]) ("\x7b\"".toList ++ (name ++ "\":null\x7d".toList)) :=
  ⟨[], _, [], Json.spaces_nil,
    .object (.items Json.spaces_nil (.colon hname Json.spaces_nil Json.spaces_nil .null)
      (.close Json.spaces_nil)),
    Json.spaces_nil, by simp⟩

/-! ## What is read of a value -/

/-- The only field of a workspace. -/
def fields : List (Json.FieldMeaning Workspace) :=
  [.of "target_directory" (option? Artifact.path?)
    fun targetField workspace => { workspace with targetField }]

theorem reads_shape : Json.Reads shape.read (record? fields {}) :=
  Json.Shape.reads (.cons
    (Json.Field.of_means (Json.reads_readOption Artifact.reads_readPath) ..) .nil)

/-- The field that is set to what is given. -/
def target? (given : Option Value) : Option (Option Path) :=
  given.elim (some none) (option? Artifact.path?)

theorem target?_eq_some_iff {given : Option Value} {field : Option Path} :
    target? given = some field ↔
      ∃ target, Names given target ∧ field = target.map Utf8.encode := by
  constructor
  · intro h
    rcases given with _ | _ | _ | _ | pieces | _ | _
    case none =>
      cases h
      exact ⟨none, .absent, rfl⟩
    case some.null =>
      cases h
      exact ⟨none, .null, rfl⟩
    case some.string =>
      obtain ⟨path, hpath, rfl⟩ := Option.map_eq_some_iff.mp h
      obtain ⟨text, htext, rfl⟩ := Option.map_eq_some_iff.mp hpath
      exact ⟨some text, .text htext, rfl⟩
    all_goals cases h
  · rintro ⟨target, hnames, rfl⟩
    cases hnames with
    | absent => rfl
    | null => rfl
    | text htext => simp [target?, option?, Artifact.path?, Json.text?, htext]

/-- Of the members of an object, only those with the name of the field are looked at, once all
    names have been read. -/
theorem record?_fields_object (members : List Member) :
    record? fields {} (.object members) =
      if Named members then
        (Json.member? "target_directory" (option? Artifact.path?) none members).map Workspace.mk
      else none := by
  have hindependent : Json.Independent fields := List.pairwise_singleton ..
  rw [Json.record?_object hindependent, fields, Json.assignAll?,
    Json.FieldMeaning.of_assign? "target_directory" (option? Artifact.path?) _
      (show Workspace.mk none = {} from rfl)]
  simp only [Json.assignAll?, Option.bind_fun_some]

theorem record?_fields_of_alike {value value' : Value} (h : Alike value value') :
    record? fields {} value = record? fields {} value' := by
  cases h with
  | object hnamed hvalues =>
    rw [record?_fields_object, record?_fields_object, Json.member?_eq_of_perm _ _ hvalues]
    simp only [hnamed]
  | same => rfl

theorem record?_fields_of_gives {value : Value} {given : Option Value}
    (hnamed : NamesReadable value) (hgives : Gives value given) :
    record? fields {} value = (target? given).map Workspace.mk := by
  cases hgives with
  | object hvalues =>
    have hread : Named _ := hnamed
    rw [record?_fields_object, if_pos hread, Json.member?, hvalues]
    cases given <;> rfl
  | list =>
    cases given with
    | none => rfl
    | some value =>
      simp [record?, fields, Json.putElements?, Json.FieldMeaning.of, target?]

theorem exists_gives_of_record? {value : Value} {workspace : Workspace}
    (h : record? fields {} value = some workspace) :
    NamesReadable value ∧ ∃ given, Gives value given := by
  cases value with
  | object members =>
    rw [record?_fields_object] at h
    obtain ⟨hnamed, h⟩ := Option.ite_none_right_eq_some.mp h
    refine ⟨hnamed, ?_⟩
    rcases hvalues : valuesOf "target_directory" members with _ | ⟨value, _ | ⟨second, others⟩⟩
    · exact ⟨none, .object hvalues⟩
    · exact ⟨some value, .object hvalues⟩
    · simp [Json.member?, hvalues] at h
  | list elements =>
    refine ⟨trivial, ?_⟩
    rcases elements with _ | ⟨value, _ | ⟨second, others⟩⟩
    · exact ⟨none, .list none⟩
    · exact ⟨some value, .list (some value)⟩
    · obtain ⟨_, -, hrest⟩ := Option.bind_eq_some_iff.mp h
      cases hrest
  | _ => cases h

/-! ## What is read of a document -/

/-- Reading a workspace fails only if it is not well-formed. -/
theorem parse_eq_error {document : List Char} {error : WorkspaceError}
    (h : parse document = .error error) : ∃ cause, error = .malformed cause := by
  obtain ⟨cause, -, rfl⟩ := Except.mapError_eq_error_iff.mp h
  exact ⟨cause, rfl⟩

theorem parse_eq_ok_iff {document : List Char} {workspace : Workspace} :
    parse document = .ok workspace ↔
      ∃ value, IsDocument value document ∧ record? fields {} value = some workspace := by
  rw [parse, Except.mapError_eq_ok_iff, Json.readDocument_eq_ok_iff reads_shape]

/-- What a document describes is what is read of it. -/
theorem describes_iff {document : List Char} {target : Option (List Char)} :
    Describes document target ↔ parse document = .ok ⟨target.map Utf8.encode⟩ := by
  rw [parse_eq_ok_iff]
  constructor
  · rintro ⟨value, given, hvalue, hnamed, hgives, hnames⟩
    refine ⟨value, hvalue, ?_⟩
    rw [record?_fields_of_gives hnamed hgives, target?_eq_some_iff.mpr ⟨target, hnames, rfl⟩,
      Option.map_some]
  · rintro ⟨value, hvalue, hrecord⟩
    obtain ⟨hnamed, given, hgives⟩ := exists_gives_of_record? hrecord
    rw [record?_fields_of_gives hnamed hgives] at hrecord
    obtain ⟨field, hfield, heq⟩ := Option.map_eq_some_iff.mp hrecord
    obtain ⟨target', hnames, rfl⟩ := target?_eq_some_iff.mp hfield
    have hsame : target'.map Utf8.encode = target.map Utf8.encode := congrArg targetField heq
    rw [Option.map_injective Utf8.encode_injective hsame] at hnames
    exact ⟨value, given, hvalue, hnamed, hgives, hnames⟩

theorem exists_describes_of_parse {document : List Char} {workspace : Workspace}
    (h : parse document = .ok workspace) : ∃ target, Describes document target := by
  obtain ⟨value, hvalue, hrecord⟩ := parse_eq_ok_iff.mp h
  obtain ⟨hnamed, given, hgives⟩ := exists_gives_of_record? hrecord
  rw [record?_fields_of_gives hnamed hgives] at hrecord
  obtain ⟨field, hfield, -⟩ := Option.map_eq_some_iff.mp hrecord
  obtain ⟨target, hnames, -⟩ := target?_eq_some_iff.mp hfield
  exact ⟨target, value, given, hvalue, hnamed, hgives, hnames⟩

/-- A document is refused where it describes no workspace, and for nothing else. -/
theorem malformed_iff {document : List Char} :
    (∃ error, parse document = .error (.malformed error)) ↔
      ¬ ∃ target, Describes document target := by
  constructor
  · rintro ⟨error, herror⟩ ⟨target, hdescribes⟩
    cases herror.symm.trans (describes_iff.mp hdescribes)
  · intro hnone
    cases hparse : parse document with
    | ok workspace => exact absurd (exists_describes_of_parse hparse) hnone
    | error error =>
      obtain ⟨cause, rfl⟩ := parse_eq_error hparse
      exact ⟨cause, rfl⟩

/-- A document is one value only, so what is read of it is what is read of that value. -/
theorem toOption_parse {document : List Char} {value : Value} (h : IsDocument value document) :
    (parse document).toOption = record? fields {} value := by
  refine Option.ext fun workspace => ?_
  rw [Except.toOption_eq_some_iff, parse_eq_ok_iff]
  constructor
  · rintro ⟨value', hvalue', hrecord⟩
    rwa [h.unique hvalue']
  · exact fun hrecord => ⟨value, h, hrecord⟩

/-! ## The directory for coverage output -/

theorem targetDirectory_of_ne_nil {directory : Path} (h : directory ≠ []) :
    targetDirectory ⟨some directory⟩ = .ok directory := by
  obtain ⟨byte, rest, rfl⟩ := List.exists_cons_of_ne_nil h
  rfl

/-- The target directory that a document names decides whether there is a directory for
    coverage output, and which one. -/
theorem coverageDirectory_encode (target : Option (List Char)) (sub : String) :
    coverageDirectory ⟨target.map Utf8.encode⟩ sub =
      match target with
      | none => .error .missingTarget
      | some [] => .error (.invalidTarget [])
      | some text => .ok (Path.join (Utf8.encode text) (Utf8.ofString sub)) := by
  match target with
  | none => rfl
  | some [] => rfl
  | some (c :: text) =>
    have hne : Utf8.encode (c :: text) ≠ [] := Utf8.encode_ne_nil (List.cons_ne_nil c text)
    rw [coverageDirectory, Option.map_some, targetDirectory_of_ne_nil hne]
    rfl

/-- Reading a document fails exactly where it describes no workspace.  Otherwise there is a
    directory for coverage output unless no target directory is named, or an empty one, and it
    is the joined one.  The space around the parts of a document makes no difference, and of an
    object neither do the order of the members, the members with another name than the field's
    and the members of their values. -/
theorem parse_describes (document : List Char) :
    ((∃ error, parse document = .error (.malformed error)) ↔
        ¬ ∃ target, Describes document target) ∧
      (∀ target, Describes document target → ∃ workspace, parse document = .ok workspace ∧
        ∀ sub : String,
          (workspace.coverageDirectory sub = .error .missingTarget ↔ target = none) ∧
          ((∃ directory, workspace.coverageDirectory sub = .error (.invalidTarget directory)) ↔
            target = some []) ∧
          ∀ directory, workspace.coverageDirectory sub = .ok directory ↔
            ∃ text, target = some text ∧ text ≠ [] ∧
              directory = Path.join (Utf8.encode text) (Utf8.ofString sub)) ∧
      ∀ value, IsDocument value document →
        ∀ document' value', IsDocument value' document' → Alike value value' →
          (parse document).toOption = (parse document').toOption := by
  refine ⟨malformed_iff, fun target hdescribes => ?_, ?_⟩
  · refine ⟨_, describes_iff.mp hdescribes, fun sub => ?_⟩
    rw [coverageDirectory_encode]
    match target with
    | none => simp
    | some [] => simp
    | some (c :: text) => simp [eq_comm]
  · intro value hdocument document' value' hdocument' halike
    rw [toOption_parse hdocument, toOption_parse hdocument', record?_fields_of_alike halike]

/-- The field is not the one inside the first member, and its name may be written with escapes;
    a member with another name says as much as none. -/
theorem parse_describes_nested :
    let document := ("\x7b\"packages\":[\x7b\"target_directory\":\"x\"\x7d]," ++
      "\"target\\u005fdirectory\":\"/t\"\x7d").toList
    Describes document (some "/t".toList) ∧
      (∃ workspace, parse document = .ok workspace ∧
        ∀ directory, workspace.coverageDirectory "cov" = .ok directory ↔
          ∃ text, some "/t".toList = some text ∧ text ≠ [] ∧
            directory = Path.join (Utf8.encode text) (Utf8.ofString "cov")) ∧
      (parse "\x7b\"\":null\x7d".toList).toOption = (parse "\x7b \x7d".toList).toOption := by
  intro document
  have hdescribes : Describes document (some "/t".toList) :=
    describes_iff.mpr (by decide +kernel)
  refine ⟨hdescribes, ?_, ?_⟩
  · obtain ⟨workspace, hparse, hdirectory⟩ := (parse_describes document).2.1 _ hdescribes
    exact ⟨workspace, hparse, (hdirectory "cov").2.2⟩
  · have hspace : Json.Spaces [' '] := by simp [Json.Spaces]
    have hempty : IsDocument (.object []) "\x7b \x7d".toList :=
      ⟨[], _, [], Json.spaces_nil, .object (.empty hspace), Json.spaces_nil, by decide⟩
    have halike : Alike (.object [([], .null)]) (.object []) := .object (by decide) (.refl [])
    exact (parse_describes "\x7b\"\":null\x7d".toList).2.2 _ (isDocument_of_name .nil)
      "\x7b \x7d".toList _ hempty halike

/-- The names of the other members matter in one way: a name that stands for no text, here half
    of a surrogate pair, is refused. -/
theorem not_forall_malformed_iff_of_names :
    ¬ ∀ document, (∃ error, parse document = .error (.malformed error)) ↔
      ¬ ∃ value given target, IsDocument value document ∧ Gives value given ∧
        Names given target := by
  intro h
  have hunit : Json.IsPieces [.unit 0xD800] "\\ud800".toList :=
    .cons (Json.hexUnit?_eq_some_iff.mp rfl) .nil
  have hdocument : IsDocument (.object [([.unit 0xD800], .null)])
      "\x7b\"\\ud800\":null\x7d".toList := isDocument_of_name hunit
  refine (h _).mp ?_ ⟨_, none, none, hdocument, .object rfl, .absent⟩
  rw [malformed_iff]
  rintro ⟨target, hdescribes⟩
  have hread := toOption_parse hdocument
  rw [describes_iff.mp hdescribes, record?_fields_object, if_neg (by decide)] at hread
  cases hread

end TestCoverage.Workspace
