/-
  TestCoverage.Proofs.Settings.Loading

  When the settings of a process can be loaded: each file gives a layer, and the items of
  the layers, one over the other, can be decoded.
-/
import TestCoverage.Proofs.Settings.Writing
import TestCoverage.Proofs.Text.Utf8

namespace TestCoverage.Settings

/-- The items of the layer that is built in. -/
def builtInLayer : Layer := [
  ("tools", .table none [
    ("cargo", .scalar none (.text "cargo")),
    ("rustc", .scalar none (.text "rustc")),
    ("kcov", .scalar none (.text "kcov"))]),
  ("coverage", .table none [
    ("rustflags", .scalar none (.text "-C link-dead-code")),
    ("exclude_pattern", .scalar none (.text "/.cargo")),
    ("output_subdir", .scalar none (.text "cov")),
    ("keep_going", .scalar none (.boolean false))])]

set_option maxRecDepth 4000 in
/-- The document that is built in can be read. -/
theorem ofDocument_builtIn :
    Layer.ofDocument .toml none Layer.builtIn.toList = .ok builtInLayer := by
  -- the kernel is slow to take a long string apart, so its characters are named first
  rw [show Layer.builtIn.toList = _ from String.toList_ofList]
  rfl

/-! ## Variables as texts -/

/-- The names and the values of all variables are text. -/
def IsText (bindings : VariableBlock) : Prop :=
  ∀ binding ∈ bindings, Utf8.WellFormed binding.1 ∧ Utf8.WellFormed binding.2

instance (bindings : VariableBlock) : Decidable (IsText bindings) :=
  inferInstanceAs (Decidable (∀ binding ∈ bindings, _ ∧ _))

/-- The bytes of a variable. -/
def bytesOf (binding : String × List Char) : Bytes × Bytes :=
  (Utf8.ofString binding.1, Utf8.encode binding.2)

/-- The variables are read as texts exactly if they are the bytes of these texts. -/
theorem texts_eq_ok_iff {bindings : VariableBlock} {values : Entries (List Char)} :
    texts bindings = .ok values ↔ values.map bytesOf = bindings := by
  induction bindings generalizing values with
  | nil => rw [texts, List.map_eq_nil_iff, Except.ok.injEq, eq_comm]
  | cons binding bindings ih =>
    obtain ⟨name, value⟩ := binding
    rw [List.map_eq_cons_iff, texts]
    constructor
    · intro h
      split at h
      · cases h
      · cases h
      · next hname hvalue =>
        obtain ⟨rest, hrest, heq⟩ := Except.bind_eq_ok_iff.mp h
        cases heq
        refine ⟨_, rest, rfl, ?_, ih.mp hrest⟩
        rw [bytesOf, Utf8.ofString, String.toList_ofList, Utf8.decode?_eq_some_iff.mp hname,
          Utf8.decode?_eq_some_iff.mp hvalue]
    · rintro ⟨⟨name, text⟩, rest, rfl, heq, hrest⟩
      cases heq
      simp only [Utf8.decode?_ofString, Utf8.decode?_encode, ih.mpr hrest, String.ofList_toList]
      rfl

/-- Variables that are text can be read as texts. -/
theorem exists_texts {bindings : VariableBlock} (h : IsText bindings) :
    ∃ values, texts bindings = .ok values := by
  have hencoded : ∃ values : Entries (List Char), values.map bytesOf = bindings := by
    induction bindings with
    | nil => exact ⟨[], rfl⟩
    | cons binding bindings ih =>
      obtain ⟨⟨hname, hvalue⟩, hrest⟩ := List.forall_mem_cons.mp h
      obtain ⟨name, hname⟩ := hname.exists_encode
      obtain ⟨text, hvalue⟩ := hvalue.exists_encode
      obtain ⟨values, rfl⟩ := ih hrest
      refine ⟨(String.ofList name, text) :: values, ?_⟩
      rw [List.map_cons, bytesOf, Utf8.ofString, String.toList_ofList, hname, hvalue]
  exact hencoded.imp fun _ => texts_eq_ok_iff.mpr

/-- Their names are those of the variables. -/
theorem named_map_bytesOf (values : Entries (List Char)) :
    VariableBlock.named (values.map bytesOf) =
      values.map fun binding => (binding.1, Utf8.encode binding.2) := by
  rw [VariableBlock.named, List.filterMap_map]
  simp [Function.comp_def, bytesOf, String.ofList_toList]

/-- One more variable that is text. -/
theorem set_map_bytesOf (values : Entries (List Char)) (name : String) (text : List Char) :
    Entries.set (values.map bytesOf) (Utf8.ofString name) (Utf8.encode text) =
      (values.set name text).map bytesOf := by
  induction values with
  | nil => rfl
  | cons binding values ih =>
    obtain ⟨other, value⟩ := binding
    by_cases h : other = name
    · simp [Entries.set, bytesOf, h]
    · simp [Entries.set, bytesOf, h, Utf8.ofString_injective.eq_iff, ih]

/-! ## The user's file -/

/-- Where it is depends on the directory, the account and two of the variables. -/
theorem userFile?_congr {surroundings surroundings' : Surroundings}
    (hdirectory : surroundings'.directory = surroundings.directory)
    (haccount : surroundings'.accountHome = surroundings.accountHome)
    (hxdg : surroundings'.bindings.get? (Utf8.ofString "XDG_CONFIG_HOME") =
      surroundings.bindings.get? (Utf8.ofString "XDG_CONFIG_HOME"))
    (hhome : surroundings'.bindings.get? (Utf8.ofString "HOME") =
      surroundings.bindings.get? (Utf8.ofString "HOME")) :
    userFile? surroundings' = userFile? surroundings := by
  simp only [userFile?, homeDirectory?, settingsDirectory, hdirectory, haccount, hxdg, hhome]

/-- A user whose home directory a variable names. -/
theorem userFile?_of_home {surroundings : Surroundings} {home : Path} (hne : home ≠ [])
    (hhome : surroundings.bindings.get? (Utf8.ofString "HOME") = some home)
    (hxdg : surroundings.bindings.get? (Utf8.ofString "XDG_CONFIG_HOME") = none) :
    userFile? surroundings =
      some ((surroundings.directory.join (home.join (Utf8.ofString ".config"))).join
        (Utf8.ofString "kcov-runner/config.toml")) := by
  obtain ⟨byte, rest, rfl⟩ := List.exists_cons_of_ne_nil hne
  simp only [userFile?, homeDirectory?, settingsDirectory, hhome, hxdg, Option.map_some]

/-! ## Layers -/

/-- The layers are what is built in, what the two files say, and what the variables say. -/
theorem layers_eq_ok_iff {surroundings : Surroundings} {project : Option Path}
    {read : List Layer} :
    layers surroundings project = .ok read ↔ ∃ ofProject ofUser values,
      fileLayer surroundings (project.map projectFile) = .ok ofProject ∧
      fileLayer surroundings (userFile? surroundings) = .ok ofUser ∧
      texts surroundings.bindings = .ok values ∧
      read = [builtInLayer, ofProject, ofUser, Layer.ofVariables values] := by
  rw [layers, ofDocument_builtIn]
  simp only [Except.bind_eq_ok_iff, pure, Except.pure, Except.ok.injEq, exists_eq_left',
    eq_comm (b := read)]
  constructor
  · rintro ⟨ofProject, hproject, ofUser, huser, values, hvalues, hread⟩
    exact ⟨ofProject, ofUser, values, hproject, huser, hvalues, hread⟩
  · rintro ⟨ofProject, ofUser, values, hproject, huser, hvalues, hread⟩
    exact ⟨ofProject, hproject, ofUser, huser, values, hvalues, hread⟩

/-- What the files say, the project's over what is built in, and the user's over both. -/
def fileItems (surroundings : Surroundings) (project : Option Path) :
    Except SettingsError (Entries Item) := do
  let ofProject ← fileLayer surroundings (project.map projectFile)
  let ofUser ← fileLayer surroundings (userFile? surroundings)
  return ofUser.onto (ofProject.onto (builtInLayer.onto []))

/-- The variables are over the files. -/
theorem load_eq_ok_iff {surroundings : Surroundings} {project : Option Path}
    {settings : Settings} :
    load surroundings project = .ok settings ↔ ∃ entries values,
      fileItems surroundings project = .ok entries ∧
      texts surroundings.bindings = .ok values ∧
      decode ((Layer.ofVariables values).onto entries) = .ok settings := by
  rw [load, Except.bind_eq_ok_iff]
  simp only [layers_eq_ok_iff, fileItems, Except.bind_eq_ok_iff, pure, Except.pure,
    Except.ok.injEq]
  constructor
  · rintro ⟨_, ⟨ofProject, ofUser, values, hproject, huser, hvalues, rfl⟩, hdecode⟩
    exact ⟨_, values, ⟨ofProject, hproject, ofUser, huser, rfl⟩, hvalues, hdecode⟩
  · rintro ⟨_, values, ⟨ofProject, hproject, ofUser, huser, rfl⟩, hvalues, hdecode⟩
    exact ⟨_, ⟨ofProject, ofUser, values, hproject, huser, hvalues, rfl⟩, hdecode⟩

/-- The files are found by two of the variables only. -/
theorem fileItems_set {surroundings : Surroundings} {name : String} (value : Bytes)
    (hdirectory : name ≠ "XDG_CONFIG_HOME") (hhome : name ≠ "HOME") (project : Option Path) :
    fileItems { surroundings with
        bindings := surroundings.bindings.set (Utf8.ofString name) value } project =
      fileItems surroundings project := by
  have hdirectory' := Utf8.ofString_injective.ne hdirectory.symm
  have hhome' := Utf8.ofString_injective.ne hhome.symm
  have huser : userFile? { surroundings with
        bindings := surroundings.bindings.set (Utf8.ofString name) value } =
      userFile? surroundings :=
    userFile?_congr rfl rfl (Entries.get?_set_of_ne _ _ hdirectory')
      (Entries.get?_set_of_ne _ _ hhome')
  have hlayer (path : Option Path) :
      fileLayer { surroundings with
          bindings := surroundings.bindings.set (Utf8.ofString name) value } path =
        fileLayer surroundings path := by
    cases path <;> rfl
  simp only [fileItems, huser, hlayer]

/-- A process in a project with this file, where no other file is around. -/
def alone (contents : Bytes) (bindings : Variables) : Surroundings where
  directory := Utf8.ofString "/work"
  bindings := bindings.block
  look path :=
    if path = projectFile (Utf8.ofString "/work") then .file contents else .nothing

theorem look_alone (contents : Bytes) (bindings : Variables) :
    (alone contents bindings).look (projectFile (Utf8.ofString "/work")) = .file contents := by
  simp only [alone, if_true]

theorem look_alone_of_ne (contents : Bytes) (bindings : Variables) {path : Path}
    (h : path ≠ projectFile (Utf8.ofString "/work")) :
    (alone contents bindings).look path = .nothing :=
  if_neg h

/-! ## Layers over one another -/

namespace Layer

@[simp] theorem onto_nil (below : Entries Item) : onto [] below = below := rfl

@[simp] theorem onto_cons (key : String) (item : Item) (layer : Layer) (below : Entries Item) :
    onto ((key, item) :: layer) below = onto layer ((Place.ofKey key).assign item below) := rfl

/-! ## The layer of the variables -/

/-- The process has no variable that sets anything. -/
def Unset (bindings : VariableBlock) : Prop :=
  ∀ binding ∈ bindings.named, keyOf? binding.1 = none

instance (bindings : VariableBlock) : Decidable (Unset bindings) :=
  inferInstanceAs (Decidable (∀ binding ∈ bindings.named, _))

theorem unset_iff {values : Entries (List Char)} :
    Unset (values.map bytesOf) ↔ ∀ binding ∈ values, keyOf? binding.1 = none := by
  rw [Unset, named_map_bytesOf, List.forall_mem_map]

theorem filterMap_ofVariable?_of_unset {values : Entries (List Char)}
    (h : ∀ binding ∈ values, keyOf? binding.1 = none) :
    values.filterMap ofVariable? = [] := by
  rw [List.filterMap_eq_nil_iff]
  intro binding hbinding
  rw [ofVariable?, h binding hbinding, Option.map_none]

theorem ofVariables_eq_nil {values : Entries (List Char)}
    (h : ∀ binding ∈ values, keyOf? binding.1 = none) : ofVariables values = [] := by
  rw [ofVariables, filterMap_ofVariable?_of_unset h]
  rfl

/-- One variable of the program is a layer of one value. -/
theorem ofVariables_set {values : Entries (List Char)}
    (h : ∀ binding ∈ values, keyOf? binding.1 = none) {name key : String}
    (hkey : keyOf? name = some key) (text : List Char) :
    ofVariables (values.set name text) =
      [(key, .scalar (some "the environment") (scalarOf text))] := by
  have hone : (values.set name text).filterMap ofVariable? =
      [(key, .scalar (some "the environment") (scalarOf text))] := by
    induction values with
    | nil => simp [Entries.set, ofVariable?, hkey]
    | cons binding values ih =>
      obtain ⟨other, value⟩ := binding
      obtain ⟨hother, hvalues⟩ := List.forall_mem_cons.mp h
      have hne : other ≠ name := by
        rintro rfl
        exact Option.some_ne_none key (hkey.symm.trans hother)
      rw [Entries.set, if_neg hne, List.filterMap_cons_none (by simp [ofVariable?, hother]),
        ih hvalues]
  rw [ofVariables, hone]
  rfl

end Layer
end TestCoverage.Settings
