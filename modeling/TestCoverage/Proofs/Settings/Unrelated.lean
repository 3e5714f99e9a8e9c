/-
  TestCoverage.Proofs.Settings.Unrelated

  What is added to files and variables and is no setting changes nothing of what is loaded.

  Both runs are followed side by side, layer by layer.  Whatever order the entries of one of them
  are gone through, there is one for those of the other in which the two runs are alike in each
  section, from what is built in up to the variables, and items that are alike decode to the same
  settings.
-/
import TestCoverage.Proofs.Settings.Additions

namespace TestCoverage.Settings

/-! ## Items in between -/

/-- The files of settings. -/
inductive Source where
  | project
  | user

/-- The number of layers up to that of the file. -/
def Source.height : Source → Nat
  | .project => 2
  | .user => 3

/-- The section is a list, which has its settings in order. -/
def IsListIn (name : String) (items : Entries Item) : Prop :=
  ∃ item ∈ items.get? name, item.IsList

/-- In some order of the entries, the section is a list when the file has been read, and it is one
    in the end. -/
def MayKeepList (surroundings : Surroundings) (project : Option Path) (source : Source)
    (name : String) : Prop :=
  ∃ read visited, layers surroundings project = .ok read ∧
    List.Forall₂ EntriesReordered read visited ∧
    IsListIn name (stacked (visited.take source.height)) ∧ IsListIn name (stacked visited)

/-- Files and variables that give settings well-typed values keep no list. -/
theorem not_mayKeepList_of_choices {surroundings : Surroundings} {path : Option Path}
    {project user process : Choice}
    (hproject : PathSays project surroundings (path.map projectFile))
    (huser : PathSays user surroundings (userFile? surroundings))
    (hvariables : VariablesSay process surroundings.bindings) (source : Source)
    (setting : Setting) : ¬ MayKeepList surroundings path source setting.sectionName := by
  rintro ⟨read, visited, hread, hvisited, -, item, hitem, hlist⟩
  have hall := (overlaid_visited hproject huser hvariables hread hvisited).1
  exact Item.not_isList_of_isTable (hall.tabular setting item hitem) hlist

/-! ## Two processes -/

/-- The variables that lead to the user's file. -/
def locatingVariables : List String :=
  ["XDG_CONFIG_HOME", "HOME"]

/-- What the second process has in its files and variables beyond the first is about no
    setting. -/
structure AddsUnrelated (mayOpen : Source → String → Prop) (locating : List String)
    (before after : Surroundings) (project : Option Path) : Prop where
  directory : after.directory = before.directory
  accountHome : after.accountHome = before.accountHome
  projectFile : ∀ path, project.map projectFile = some path →
    AddsToFile (mayOpen .project) before after path
  userFile : ∀ path, userFile? before = some path →
    AddsToFile (mayOpen .user) before after path
  bindings : AddsVariables locating before.bindings after.bindings

/-- The layers of a file in both processes. -/
theorem exists_fileLayer {mayOpen : String → Prop} {before after : Surroundings}
    (hdirectory : after.directory = before.directory) {path : Option Path}
    (hpath : ∀ file, path = some file → AddsToFile mayOpen before after file) {layer : Layer}
    (hlayer : fileLayer before path = .ok layer) :
    ∃ layer', fileLayer after path = .ok layer' ∧
      BackAndForth EntriesReordered (KeepsAlike mayOpen) layer layer' := by
  cases path with
  | none => exact ⟨layer, hlayer, .refl KeepsAlike.refl layer⟩
  | some file => exact (hpath file rfl).layer hdirectory hlayer

/-- The layers of two processes in orders of their entries that keep items alike. -/
inductive LayersAlike (mayOpen : Source → String → Prop) : List Layer → List Layer → Prop where
  | intro {builtIn ofProject ofProject' ofUser ofUser' ofProcess ofProcess' : Layer}
      (hbuiltIn : EntriesReordered builtInLayer builtIn)
      (hproject : KeepsAlike (mayOpen .project) ofProject ofProject')
      (huser : KeepsAlike (mayOpen .user) ofUser ofUser')
      (hprocess : KeepsAlike (fun _ => False) ofProcess ofProcess') :
      LayersAlike mayOpen [builtIn, ofProject, ofUser, ofProcess]
        [builtIn, ofProject', ofUser', ofProcess']

/-- The second process loads what the first one loads, unless a file opens a table for a section
    that is a list then and in the end. -/
theorem LayersAlike.decode_eq_ok {mayOpen : Source → String → Prop} {visited visited' : List Layer}
    (h : LayersAlike mayOpen visited visited')
    (hopen : ∀ source name, IsListIn name (stacked (visited.take source.height)) →
      IsListIn name (stacked visited) → ¬ mayOpen source name)
    {settings : Settings} (hdecode : decode (stacked visited) = .ok settings) :
    decode (stacked visited') = .ok settings := by
  obtain @⟨builtIn, ofProject, ofProject', ofUser, ofUser', ofProcess, ofProcess', hbuiltIn,
    hproject, huser, hprocess⟩ := h
  -- a list that is not there in the end may be displaced
  let mayDisplace (name : String) : Prop :=
    ¬ IsListIn name (stacked [builtIn, ofProject, ofUser, ofProcess])
  have hproject : AlikeIn mayDisplace (stacked [builtIn, ofProject])
      (stacked [builtIn, ofProject']) :=
    hproject.onto (fun name item hitem hlist hmay hend =>
      hopen .project name ⟨item, hitem, hlist⟩ hend hmay) (alikeIn_builtIn _ hbuiltIn)
  have huser : AlikeIn mayDisplace (stacked [builtIn, ofProject, ofUser])
      (stacked [builtIn, ofProject', ofUser']) :=
    huser.onto (fun name item hitem hlist hmay hend =>
      hopen .user name ⟨item, hitem, hlist⟩ hend hmay) hproject
  have hall : AlikeIn mayDisplace (stacked [builtIn, ofProject, ofUser, ofProcess])
      (stacked [builtIn, ofProject', ofUser', ofProcess']) :=
    hprocess.onto (fun _ _ _ _ => False.elim) huser
  exact hall.decode_eq_ok (fun name item hitem hlist hmay => hmay ⟨item, hitem, hlist⟩) hdecode

namespace AddsUnrelated

variable {before after : Surroundings} {project : Option Path}
  {mayOpen : Source → String → Prop}

theorem userFile?_eq (h : AddsUnrelated mayOpen locatingVariables before after project) :
    userFile? after = userFile? before :=
  userFile?_congr h.directory h.accountHome (h.bindings.get?_eq (by decide))
    (h.bindings.get?_eq (by decide))

/-- Whatever order the entries of one process are gone through, one of the other goes with it. -/
theorem exists_layers (h : AddsUnrelated mayOpen locatingVariables before after project)
    {read : List Layer} (hread : layers before project = .ok read) :
    ∃ read', layers after project = .ok read' ∧
      BackAndForth (List.Forall₂ EntriesReordered) (LayersAlike mayOpen) read read' := by
  obtain ⟨ofProject, ofUser, values, hproject, huser, hvalues, rfl⟩ := layers_eq_ok_iff.mp hread
  obtain ⟨ofProject', hproject', hbothProject⟩ :=
    exists_fileLayer h.directory h.projectFile hproject
  obtain ⟨ofUser', huser', hbothUser⟩ := exists_fileLayer h.directory h.userFile huser
  obtain ⟨values', hvalues', hsame⟩ := h.bindings.exists_values (texts_eq_ok_iff.mp hvalues)
  have hbothProcess : BackAndForth EntriesReordered (KeepsAlike fun _ => False)
      (Layer.ofVariables values) (Layer.ofVariables values') :=
    AddsVariables.backAndForth hsame
  refine ⟨_, layers_eq_ok_iff.mpr ⟨ofProject', ofUser', values', hproject', ?_,
    texts_eq_ok_iff.mpr hvalues', rfl⟩, ?_, ?_⟩
  · rw [h.userFile?_eq]
    exact huser'
  · rintro _ (_ | ⟨hbuiltIn, _ | ⟨hproject, _ | ⟨huser, _ | ⟨hprocess, ⟨⟩⟩⟩⟩⟩)
    obtain ⟨_, hproject', hkeepsProject⟩ := hbothProject.forth _ hproject
    obtain ⟨_, huser', hkeepsUser⟩ := hbothUser.forth _ huser
    obtain ⟨_, hprocess', hkeepsProcess⟩ := hbothProcess.forth _ hprocess
    exact ⟨_, .cons hbuiltIn (.cons hproject' (.cons huser' (.cons hprocess' .nil))),
      hbuiltIn, hkeepsProject, hkeepsUser, hkeepsProcess⟩
  · rintro _ (_ | ⟨hbuiltIn, _ | ⟨hproject', _ | ⟨huser', _ | ⟨hprocess', ⟨⟩⟩⟩⟩⟩)
    obtain ⟨_, hproject, hkeepsProject⟩ := hbothProject.back _ hproject'
    obtain ⟨_, huser, hkeepsUser⟩ := hbothUser.back _ huser'
    obtain ⟨_, hprocess, hkeepsProcess⟩ := hbothProcess.back _ hprocess'
    exact ⟨_, .cons hbuiltIn (.cons hproject (.cons huser (.cons hprocess .nil))),
      hbuiltIn, hkeepsProject, hkeepsUser, hkeepsProcess⟩

section

variable (h : AddsUnrelated (fun source name => ¬ MayKeepList before project source name)
  locatingVariables before after project)
include h

/-- The second process may load all that the first one may. -/
theorem mayLoad {settings : Settings} (hbefore : MayLoad before project (some settings)) :
    MayLoad after project (some settings) := by
  obtain ⟨read, visited, hread, hvisited, hsettings⟩ := mayLoad_some_iff.mp hbefore
  obtain ⟨read', hread', hboth⟩ := h.exists_layers hread
  obtain ⟨visited', hvisited', halike⟩ := hboth.forth _ hvisited
  refine mayLoad_some_iff.mpr
    ⟨read', visited', hread', hvisited', halike.decode_eq_ok ?_ hsettings⟩
  exact fun _ _ hlist hend hmay => hmay ⟨read, visited, hread, hvisited, hlist, hend⟩

/-- It may load nothing else, unless nothing may come of the first. -/
theorem mayLoad_or {result : Option Settings} (hafter : MayLoad after project result) :
    MayLoad before project result ∨ MayLoad before project none := by
  cases hread : layers before project with
  | error error => exact .inr (.refused hread)
  | ok read =>
    obtain ⟨read', hread', hboth⟩ := h.exists_layers hread
    cases hafter with
    | refused hrefused =>
      rw [hread'] at hrefused
      cases hrefused
    | @decoded _ visited' hdecoded hvisited' =>
      rw [hread', Except.ok.injEq] at hdecoded
      subst hdecoded
      obtain ⟨visited, hvisited, halike⟩ := hboth.back _ hvisited'
      have hbefore := MayLoad.decoded hread hvisited
      cases hsettings : decode (stacked visited) with
      | error error =>
        rw [hsettings] at hbefore
        exact .inr hbefore
      | ok settings =>
        have hsettings' := halike.decode_eq_ok
          (fun _ _ hlist hend hmay => hmay ⟨read, visited, hread, hvisited, hlist, hend⟩) hsettings
        rw [hsettings] at hbefore
        rw [hsettings']
        exact .inl hbefore

end

end AddsUnrelated

/-! ## Processes with certain files -/

/-- A file that is written as a text, if there is one. -/
def sightOf : Option String → Sight
  | some text => .file (Utf8.ofString text)
  | none => .nothing

/-- The file of a user who is at home in a certain directory. -/
def homeFile : Path :=
  Utf8.ofString "/home/.config/kcov-runner/config.toml"

/-- A process of this user in a certain project, with the files of both and with more
    variables. -/
def housed (project user : Option String) (others : Variables) : Surroundings where
  directory := Utf8.ofString "/work"
  bindings := Variables.block (("HOME", Utf8.ofString "/home") :: others)
  look path :=
    if path = projectFile (Utf8.ofString "/work") then sightOf project
    else if path = homeFile then sightOf user
    else .nothing

theorem look_housed_project (project user : Option String) (others : Variables) :
    (housed project user others).look (projectFile (Utf8.ofString "/work")) = sightOf project := by
  simp only [housed, if_true]

theorem look_housed_user (project user : Option String) (others : Variables) :
    (housed project user others).look homeFile = sightOf user := by
  have hne : homeFile ≠ projectFile (Utf8.ofString "/work") := by decide +kernel
  simp only [housed, if_neg hne, if_true]

theorem Describes.of_parse? {text : List Char} {entries : List (String × Toml.Value)}
    (h : Toml.parse? text = some (.table entries)) :
    Describes (sightOf (some (String.ofList text))) entries :=
  .file (Utf8.decode?_ofString _) (by rwa [String.toList_ofList])

theorem Describes.of_none : Describes (sightOf none) [] :=
  .nothing

theorem userFile?_housed {project user : Option String} {others : Variables}
    (hdirectory : others.get? "XDG_CONFIG_HOME" = none) :
    userFile? (housed project user others) = some homeFile := by
  have hhome : (housed project user others).bindings.get? (Utf8.ofString "HOME") =
      some (Utf8.ofString "/home") := Variables.get?_block _ "HOME"
  have hnone : (housed project user others).bindings.get? (Utf8.ofString "XDG_CONFIG_HOME") =
      none := by
    rw [housed, Variables.get?_block, Entries.get?, if_neg (by decide)]
    exact hdirectory
  rw [userFile?_of_home (by decide) hhome hnone]
  rfl

/-- What is added to the files and to the variables is added to the process. -/
theorem AddsUnrelated.of_housed {mayOpen : Source → String → Prop} {locating : List String}
    {project project' user user' : Option String} {others others' : Variables}
    {ofProject ofProject' ofUser ofUser' : List (String × Toml.Value)}
    (hproject : Describes (sightOf project) ofProject)
    (hproject' : Describes (sightOf project') ofProject')
    (haddsProject : Adds (mayOpen .project) ofProject ofProject')
    (huser : Describes (sightOf user) ofUser) (huser' : Describes (sightOf user') ofUser')
    (haddsUser : Adds (mayOpen .user) ofUser ofUser')
    (hothers : AddsVariables locating others.block others'.block)
    (hdirectory : others.get? "XDG_CONFIG_HOME" = none) :
    AddsUnrelated mayOpen locating (housed project user others) (housed project' user' others')
      (some (Utf8.ofString "/work")) where
  directory := rfl
  accountHome := rfl
  projectFile path hpath := by
    obtain rfl : _ = path := Option.some.inj hpath
    rw [← look_housed_project project user others] at hproject
    rw [← look_housed_project project' user' others'] at hproject'
    exact .document hproject hproject' haddsProject
  userFile path hpath := by
    obtain rfl : _ = path := Option.some.inj ((userFile?_housed hdirectory).symm.trans hpath)
    rw [← look_housed_user project user others] at huser
    rw [← look_housed_user project' user' others'] at huser'
    exact .document huser huser' haddsUser
  bindings := .keep _ hothers

theorem describes_kcov : Describes (sightOf (some "[tools]\nkcov = \"k\"\n"))
    [("tools", .table [("kcov", .string "k")])] :=
  .of_parse? rfl

/-- A project that names one of the tools. -/
def namesKcov : Surroundings :=
  housed (some "[tools]\nkcov = \"k\"\n") none []

/-- What its file chooses. -/
def kcovChoice : Choice
  | .text .kcov => some "k"
  | _ => none

theorem pathSays_namesKcov_project :
    PathSays kcovChoice namesKcov ((some (Utf8.ofString "/work")).map projectFile) := by
  have hsays : DocumentSays kcovChoice [("tools", .table [("kcov", .string "k")])] := by
    constructor
    · exact List.forall_mem_singleton.mpr ⟨⟨.text .kcov, rfl⟩, _, rfl,
        List.forall_mem_singleton.mpr ⟨.text .kcov, "k", rfl, rfl, rfl⟩⟩
    · rintro ((_ | _ | _ | _ | _ | _) | _) value hvalue <;> cases hvalue
      exact ⟨_, List.mem_singleton_self _, List.mem_singleton_self _⟩
  rw [Option.map_some, PathSays, namesKcov, look_housed_project]
  cases describes_kcov with
  | file htext hdocument => exact .document htext hdocument hsays

theorem pathSays_namesKcov_user : PathSays .nothing namesKcov (userFile? namesKcov) := by
  rw [namesKcov, userFile?_housed rfl, PathSays, look_housed_user]
  exact .nothing rfl

theorem variablesSay_namesKcov : VariablesSay .nothing namesKcov.bindings :=
  variablesSay_nothing (by decide +kernel) (by decide +kernel)

/-! ## What is loaded -/

/-- What is unrelated to the settings changes nothing of what is loaded, unless a file opens a
    table for a section that is a list then and in the end.  Where the settings are loaded in
    every order of the entries they are so with the additions, and otherwise nothing comes of
    loading that could not come of it before. -/
theorem mayLoad_of_addsUnrelated {before after : Surroundings} {project : Option Path}
    (hadds : AddsUnrelated (fun source name => ¬ MayKeepList before project source name)
      locatingVariables before after project) :
    (∀ settings, (∀ result, MayLoad before project result → result = some settings) →
      load after project = .ok settings ∧
        ∀ result, MayLoad after project result → result = some settings) ∧
    (∀ settings, MayLoad before project (some settings) → MayLoad after project (some settings)) ∧
    ∀ result, MayLoad after project result →
      MayLoad before project result ∨ MayLoad before project none := by
  refine ⟨fun settings hall => ?_, fun settings => hadds.mayLoad, fun result => hadds.mayLoad_or⟩
  have hafter (result : Option Settings) (hresult : MayLoad after project result) :
      result = some settings := by
    rcases hadds.mayLoad_or hresult with hbefore | hbefore
    · exact hall result hbefore
    · cases hall none hbefore
  exact ⟨Except.toOption_eq_some_iff.mp (hafter _ (mayLoad_load after project)), hafter⟩

/-- A key beside the sections, one in the table of a section, a table for a section in a file
    that was not there, and a variable. -/
theorem mayLoad_of_addsUnrelated_everywhere :
    (∀ result, MayLoad (housed (some "[tools]\nkcov = \"k\"\n") none [])
      (some (Utf8.ofString "/work")) result → result = some { tools := { kcov := "k" } }) ∧
    ∀ result, MayLoad (housed (some "x = true\n[tools]\nkcov = \"k\"\ny = []\n")
        (some "[Coverage]\nx = true\n") [("KCOV_RUNNER__X", Utf8.ofString "1")])
      (some (Utf8.ofString "/work")) result → result = some { tools := { kcov := "k" } } := by
  have hbefore (result : Option Settings)
      (hload : MayLoad namesKcov (some (Utf8.ofString "/work")) result) :
      result = some { tools := { kcov := "k" } } :=
    eq_some_of_mayLoad pathSays_namesKcov_project pathSays_namesKcov_user variablesSay_namesKcov
      hload
  have hproject' : Describes (sightOf (some "x = true\n[tools]\nkcov = \"k\"\ny = []\n"))
      [("x", .boolean true),
        ("tools", .table ([("kcov", .string "k")] ++ [("y", .list [])]))] :=
    .of_parse? rfl
  have huser' : Describes (sightOf (some "[Coverage]\nx = true\n"))
      [("Coverage", .table ([] ++ [("x", .boolean true)]))] :=
    .of_parse? rfl
  refine ⟨hbefore, ((mayLoad_of_addsUnrelated
    (.of_housed describes_kcov hproject' ?_ .of_none huser' ?_ ?_ rfl)).1 _ hbefore).2⟩
  · have hkey : AddsKeys "tools" [("kcov", Toml.Value.string "k")]
        ([("kcov", .string "k")] ++ [("y", .list [])]) :=
      .append _ (List.forall_mem_singleton.mpr (by decide +kernel))
    have htools : Text.lowered "tools" = "tools" := by decide +kernel
    exact ⟨_, .insert (.foreign ⟨by decide, by decide +kernel⟩ _)
      (.keep (.inside (by decide) htools hkey (absurd · (List.cons_ne_nil _ _))) .nil), .refl _⟩
  · have hkey : AddsKeys "coverage" [] ([] ++ [("x", Toml.Value.boolean true)]) :=
      .append _ (List.forall_mem_singleton.mpr (by decide +kernel))
    have hopen : ¬ MayKeepList namesKcov (some (Utf8.ofString "/work")) .user "coverage" :=
      not_mayKeepList_of_choices pathSays_namesKcov_project pathSays_namesKcov_user
        variablesSay_namesKcov .user .keepGoing
    have hcoverage : Text.lowered "Coverage" = "coverage" := by decide +kernel
    exact ⟨_, .insert (.opened (by decide) hcoverage hkey hopen) .nil, .refl _⟩
  · exact .add ⟨by decide +kernel, by decide +kernel, by decide⟩ "1" .nil

/-! ## Bounds -/

/-- Nothing that is added so changes what is loaded: files may open these tables, and these
    variables are not added. -/
def Harmless (mayOpen : Surroundings → Option Path → Source → String → Prop)
    (locating : List String) : Prop :=
  ∀ (before after : Surroundings) (project : Option Path) (settings : Settings),
    AddsUnrelated (mayOpen before project) locating before after project →
    load before project = .ok settings → load after project = .ok settings

/-- A key in an empty table displaces a list. -/
theorem not_harmless_of_mayOpen : ¬ Harmless (fun _ _ _ _ => True) locatingVariables := by
  intro hall
  have hproject : Describes (sightOf (some "tools = [\"c\", \"r\", \"k\"]\n"))
      [("tools", .list [.string "c", .string "r", .string "k"])] :=
    .of_parse? rfl
  have huser : Describes (sightOf (some "[tools]\n")) [("tools", .table [])] :=
    .of_parse? rfl
  have huser' : Describes (sightOf (some "[tools]\nx = true\n"))
      [("tools", .table ([] ++ [("x", .boolean true)]))] :=
    .of_parse? rfl
  have hkey : AddsKeys "tools" [] ([] ++ [("x", Toml.Value.boolean true)]) :=
    .append _ (List.forall_mem_singleton.mpr (by decide +kernel))
  have hlower : Text.lowered "tools" = "tools" := by decide +kernel
  have hbefore : load (housed (some "tools = [\"c\", \"r\", \"k\"]\n") (some "[tools]\n") [])
      (some (Utf8.ofString "/work")) =
      .ok { tools := { cargo := "c", rustc := "r", kcov := "k" } } := by
    rw [load, layers, ofDocument_builtIn]
    decide +kernel
  have hafter : load (housed (some "tools = [\"c\", \"r\", \"k\"]\n")
      (some "[tools]\nx = true\n") []) (some (Utf8.ofString "/work")) = .ok {} := by
    rw [load, layers, ofDocument_builtIn]
    decide +kernel
  have hothers : AddsVariables locatingVariables (Variables.block []) (Variables.block []) := .nil
  have hsame := hall _ _ _ _ (.of_housed hproject hproject (.refl _) huser huser'
    ⟨_, .keep (.inside (by decide) hlower hkey fun _ => trivial) .nil, .refl _⟩ hothers rfl) hbefore
  exact absurd (hafter.symm.trans hsame) (by decide)

/-- Another directory of the user may have no file. -/
theorem not_harmless_of_locating :
    ¬ Harmless (fun before project source name => ¬ MayKeepList before project source name) [] := by
  intro hall
  have hname : IsForeignName [] "XDG_CONFIG_HOME" :=
    ⟨by decide +kernel, by decide +kernel, List.not_mem_nil⟩
  have hbefore : load (housed none (some "[tools]\nkcov = \"k\"\n") [])
      (some (Utf8.ofString "/work")) = .ok { tools := { kcov := "k" } } := by
    rw [load, layers, ofDocument_builtIn]
    decide +kernel
  have hafter : load (housed none (some "[tools]\nkcov = \"k\"\n")
      [("XDG_CONFIG_HOME", Utf8.ofString "/elsewhere")]) (some (Utf8.ofString "/work")) =
      .ok {} := by
    rw [load, layers, ofDocument_builtIn]
    decide +kernel
  have hothers : AddsVariables [] (Variables.block [])
      (Variables.block [("XDG_CONFIG_HOME", Utf8.ofString "/elsewhere")]) :=
    .add hname "/elsewhere" .nil
  have hsame := hall _ _ _ _ (.of_housed .of_none .of_none (.refl _) describes_kcov
    describes_kcov (.refl _) hothers rfl) hbefore
  exact absurd (hafter.symm.trans hsame) (by decide)

/-- What may be added has bounds: an empty table that is opened may displace a list, and a
    variable may lead to another file.  A table that begins with the key for moments is no
    table. -/
theorem not_forall_load_of_addsUnrelated :
    ¬ Harmless (fun _ _ _ _ => True) locatingVariables ∧
    ¬ Harmless (fun before project source name => ¬ MayKeepList before project source name) [] ∧
    load (housed (some "[tools]\nkcov = \"k\"\n") none []) (some (Utf8.ofString "/work")) =
      .ok { tools := { kcov := "k" } } ∧
    load (housed (some "[tools]\n\"$__toml_private_datetime\" = \"1979-05-27\"\nkcov = \"k\"\n")
        none []) (some (Utf8.ofString "/work")) =
      .error (.mistyped "string \"1979-05-27\"" "struct ToolsConfig" none none) := by
  refine ⟨not_harmless_of_mayOpen, not_harmless_of_locating, ?_, ?_⟩
  all_goals
    rw [load, layers, ofDocument_builtIn]
    decide +kernel

end TestCoverage.Settings
