/-
  TestCoverage.Proofs.Settings.Refusal

  Why settings are refused.  A file is refused for its text or for a value, and so are values
  that have been put together.  The variables are read behind the files, and it is only then
  that loading stops at one that is no text.
-/
import TestCoverage.Proofs.Settings.Loading

namespace TestCoverage.Settings

/-! ## Errors about documents and values -/

/-- A value, or an error about a document or a value in one, and not about a variable. -/
inductive Reported {α : Type} : Except SettingsError α → Prop where
  | ok (value : α) : Reported (.ok value)
  | unreadable (reason : String) (origin : Option String) :
      Reported (.error (.unreadable reason origin))
  | mistyped (found expected : String) (key origin : Option String) :
      Reported (.error (.mistyped found expected key origin))

namespace Reported

variable {α β : Type} {result : Except SettingsError α}

theorem ne_notText (h : Reported result) (bytes : Bytes) : result ≠ .error (.notText bytes) := by
  rintro rfl
  cases h

/-- An error of one computation as that of another. -/
theorem error {error : SettingsError} (h : Reported (.error error : Except SettingsError α)) :
    Reported (.error error : Except SettingsError β) := by
  cases h with
  | unreadable => exact .unreadable ..
  | mistyped => exact .mistyped ..

/-- One after the other. -/
theorem bind {next : α → Except SettingsError β} (h : Reported result)
    (hnext : ∀ value, Reported (next value)) : Reported (result >>= next) := by
  cases h with
  | ok value => exact hnext value
  | unreadable => exact .unreadable ..
  | mistyped => exact .mistyped ..

theorem map (h : Reported result) (f : α → β) : Reported (result.map f) := by
  cases h with
  | ok value => exact .ok _
  | unreadable => exact .unreadable ..
  | mistyped => exact .mistyped ..

end Reported

/-! ## Decoding -/

theorem reported_decodeText (key : String) (item : Item) : Reported (decodeText key item) := by
  unfold decodeText
  split
  all_goals first
    | exact .ok _
    | exact .mistyped ..

theorem reported_decodeBool (key : String) (item : Item) : Reported (decodeBool key item) := by
  unfold decodeBool
  split
  · exact .ok _
  · exact .ok _
  · exact .ok _
  · dsimp only
    split
    · exact .ok _
    · split
      · exact .ok _
      · exact .mistyped ..
  · exact .mistyped ..

section Sections

variable {σ : Type} {members : List (Member σ)}
  (hmembers : ∀ member ∈ members, ∀ key item settings,
    Reported (member.decode key item settings))
include hmembers

theorem reported_decodeTable (header : String) (entries : Entries Item) (settings : σ) :
    Reported (decodeTable header entries members settings) := by
  induction members generalizing settings with
  | nil => exact .ok _
  | cons member members ih =>
    obtain ⟨hmember, hmembers⟩ := List.forall_mem_cons.mp hmembers
    unfold decodeTable
    dsimp only
    split
    · exact .bind (hmember _ _ _) (ih hmembers)
    · exact ih hmembers settings

theorem reported_decodeList (header : String) (index : Nat) (items : List Item) (settings : σ) :
    Reported (decodeList header index items members settings) := by
  induction members generalizing index items settings with
  | nil => cases items <;> exact .ok _
  | cons member members ih =>
    obtain ⟨hmember, hmembers⟩ := List.forall_mem_cons.mp hmembers
    cases items with
    | nil => exact .ok _
    | cons item items => exact .bind (hmember _ _ _) (ih hmembers _ _)

theorem reported_decodeSection (name expected : String) (default : σ) (entries : Entries Item) :
    Reported (decodeSection name expected members default entries) := by
  unfold decodeSection
  split
  · exact .ok _
  · exact reported_decodeTable hmembers _ _ _
  · exact reported_decodeList hmembers _ _ _ _
  · exact .mistyped ..

end Sections

theorem reported_decode (entries : Entries Item) : Reported (decode entries) := by
  have htools : ∀ member ∈ toolMembers, ∀ key item settings,
      Reported (member.decode key item settings) := by
    simp only [toolMembers, List.forall_mem_cons]
    exact ⟨fun _ _ _ => (reported_decodeText ..).map _, fun _ _ _ => (reported_decodeText ..).map _,
      fun _ _ _ => (reported_decodeText ..).map _, List.forall_mem_nil _⟩
  have hcoverage : ∀ member ∈ coverageMembers, ∀ key item settings,
      Reported (member.decode key item settings) := by
    simp only [coverageMembers, List.forall_mem_cons]
    exact ⟨fun _ _ _ => (reported_decodeText ..).map _, fun _ _ _ => (reported_decodeText ..).map _,
      fun _ _ _ => (reported_decodeText ..).map _, fun _ _ _ => (reported_decodeBool ..).map _,
      List.forall_mem_nil _⟩
  exact .bind (reported_decodeSection htools ..) fun _ =>
    .bind (reported_decodeSection hcoverage ..) fun _ => .ok _

/-! ## Files -/

theorem reported_ofSight (format : Format) (directory path : Path) (sight : Sight) :
    Reported (Layer.ofSight format directory path sight) := by
  unfold Layer.ofSight
  split
  · split
    · unfold Layer.ofDocument
      split
      · exact .unreadable ..
      · exact .ok _
      · exact .mistyped ..
    · exact .ok _
  · exact .ok _

theorem reported_fileLayer (surroundings : Surroundings) (path : Option Path) :
    Reported (fileLayer surroundings path) := by
  cases path with
  | none => exact .ok _
  | some path =>
    rw [fileLayer]
    unfold Layer.ofFile
    split
    · split
      · exact reported_ofSight ..
      · exact .ok _
    · exact reported_ofSight ..

/-! ## Variables -/

/-- What is no text is not passed over. -/
theorem exists_texts_eq_error {bindings : VariableBlock} (h : ¬ IsText bindings) :
    ∃ bytes, texts bindings = .error (.notText bytes) := by
  induction bindings with
  | nil => exact absurd (List.forall_mem_nil _) h
  | cons binding bindings ih =>
    obtain ⟨name, value⟩ := binding
    unfold texts
    cases hname : Utf8.decode? name with
    | none => exact ⟨name, rfl⟩
    | some name' =>
      cases hvalue : Utf8.decode? value with
      | none => exact ⟨value, rfl⟩
      | some value' =>
        have hbinding : Utf8.WellFormed name ∧ Utf8.WellFormed value :=
          ⟨Utf8.wellFormed_iff.mpr ⟨name', Utf8.decode?_eq_some_iff.mp hname⟩,
            Utf8.wellFormed_iff.mpr ⟨value', Utf8.decode?_eq_some_iff.mp hvalue⟩⟩
        have hrest : ¬ IsText bindings := fun hrest =>
          h (List.forall_mem_cons.mpr ⟨hbinding, hrest⟩)
        obtain ⟨bytes, hbytes⟩ := ih hrest
        exact ⟨bytes, by rw [hbytes]; rfl⟩

/-- Loading stops at a variable if both files have been read and a variable is no text, and only
    then. -/
theorem exists_load_eq_notText_iff {surroundings : Surroundings} {project : Option Path} :
    (∃ bytes, load surroundings project = .error (.notText bytes)) ↔
      (∃ ofProject, fileLayer surroundings (project.map projectFile) = .ok ofProject) ∧
      (∃ ofUser, fileLayer surroundings (userFile? surroundings) = .ok ofUser) ∧
      ¬ IsText surroundings.bindings := by
  constructor
  · rintro ⟨bytes, hload⟩
    have hproject := reported_fileLayer surroundings (project.map projectFile)
    have huser := reported_fileLayer surroundings (userFile? surroundings)
    simp only [load, layers, ofDocument_builtIn] at hload
    cases hofProject : fileLayer surroundings (project.map projectFile) with
    | error error =>
      rw [hofProject] at hload hproject
      exact absurd hload (hproject.error.ne_notText bytes)
    | ok ofProject =>
      cases hofUser : fileLayer surroundings (userFile? surroundings) with
      | error error =>
        rw [hofProject, hofUser] at hload
        rw [hofUser] at huser
        exact absurd hload (huser.error.ne_notText bytes)
      | ok ofUser =>
        refine ⟨⟨ofProject, rfl⟩, ⟨ofUser, rfl⟩, fun htext => ?_⟩
        obtain ⟨values, hvalues⟩ := exists_texts htext
        rw [hofProject, hofUser, hvalues] at hload
        exact absurd hload ((reported_decode _).ne_notText bytes)
  · rintro ⟨⟨ofProject, hproject⟩, ⟨ofUser, huser⟩, htext⟩
    obtain ⟨bytes, hbytes⟩ := exists_texts_eq_error htext
    refine ⟨bytes, ?_⟩
    simp only [load, layers, ofDocument_builtIn, hproject, huser, hbytes]
    rfl

end TestCoverage.Settings
