/-
  TestCoverage.Proofs.Settings.Additions

  Keys, tables and variables that are added to a layer and are no settings.  Whatever order the
  entries of one of the two layers are gone through, there is an order for those of the other
  with which items that are alike below the layers are alike above them.
-/
import TestCoverage.Proofs.Settings.Alike
import TestCoverage.Proofs.Settings.Foreign
import TestCoverage.Proofs.Settings.Order

namespace TestCoverage.Settings

open Item (EntryReordered)

/-! ## Documents -/

/-- The key is written without quotes and names no section, in any letter case. -/
structure IsForeignKey (key : String) : Prop where
  bare : key.toList.all Toml.isBare = true
  not_section : Text.lowered key ∉ sectionNames

/-- The second table has the names of the first, and the same entries for the settings of the
    section, in any letter case. -/
structure AddsKeys {α : Type} (name : String) (inner inner' : List (String × α)) : Prop where
  kept : ∀ entry ∈ inner, entry.1 ∈ inner'.map Prod.fst
  settings_perm : (inner'.filter fun entry => isSettingKey name entry.1).Perm
    (inner.filter fun entry => isSettingKey name entry.1)

/-- What an entry of a document becomes: itself, another value for a key beside the sections, or
    more keys in the table of a section.  A table without keys is given some only where this is
    allowed. -/
inductive Grows (mayOpen : String → Prop) : String × Toml.Value → String × Toml.Value → Prop where
  | same (entry : String × Toml.Value) : Grows mayOpen entry entry
  | foreign {key : String} (hkey : IsForeignKey key) (value value' : Toml.Value) :
      Grows mayOpen (key, value) (key, value')
  | inside {key name : String} (hname : name ∈ sectionNames) (hkey : Text.lowered key = name)
      {inner inner' : List (String × Toml.Value)} (hinner : AddsKeys name inner inner')
      (hopen : inner = [] → mayOpen name) : Grows mayOpen (key, .table inner) (key, .table inner')

/-- An entry of a document that is no setting: a key beside the sections, or a table for a
    section where this is allowed. -/
inductive IsNew (mayOpen : String → Prop) : String × Toml.Value → Prop where
  | foreign {key : String} (hkey : IsForeignKey key) (value : Toml.Value) :
      IsNew mayOpen (key, value)
  | opened {key name : String} (hname : name ∈ sectionNames) (hkey : Text.lowered key = name)
      {inner : List (String × Toml.Value)} (hinner : AddsKeys name [] inner)
      (hopen : mayOpen name) : IsNew mayOpen (key, .table inner)

/-- The second document has what the entries of the first become, and new entries, in any
    order. -/
def Adds (mayOpen : String → Prop) (entries entries' : List (String × Toml.Value)) : Prop :=
  ∃ ordered, Inserts (Grows mayOpen) (IsNew mayOpen) entries ordered ∧ ordered.Perm entries'

/-- Nothing needs to be added. -/
theorem Adds.refl {mayOpen : String → Prop} (entries : List (String × Toml.Value)) :
    Adds mayOpen entries entries := by
  refine ⟨entries, ?_, .refl _⟩
  induction entries with
  | nil => exact .nil
  | cons entry entries ih => exact .keep (.same entry) ih

namespace AddsKeys

variable {α β : Type} {name : String}

theorem map {inner inner' : List (String × α)} (h : AddsKeys name inner inner') (f : α → β) :
    AddsKeys name (inner.map fun entry => (entry.1, f entry.2))
      (inner'.map fun entry => (entry.1, f entry.2)) := by
  constructor
  · simp only [List.forall_mem_map, List.map_map]
    exact h.kept
  · simp only [List.filter_map, Function.comp_def]
    exact h.settings_perm.map _

/-- Keys that are added behind the others and are no settings. -/
theorem append (inner : List (String × α)) {added : List (String × α)}
    (h : ∀ entry ∈ added, isSettingKey name entry.1 = false) :
    AddsKeys name inner (inner ++ added) := by
  constructor
  · intro entry hentry
    exact List.mem_map_of_mem (List.mem_append_left _ hentry)
  · have hnone : added.filter (fun entry => isSettingKey name entry.1) = [] := by
      rw [List.filter_eq_nil_iff]
      intro entry hentry
      rw [h entry hentry]
      exact Bool.false_ne_true
    rw [List.filter_append, hnone, List.append_nil]

/-- Where the names of one table are in another, they are there in any order. -/
theorem kept_of_reordered {inner inner' visited visited' : List (String × Item)}
    (h : ∀ entry ∈ inner, entry.1 ∈ inner'.map Prod.fst) (hvisited : EntriesReordered inner visited)
    (hvisited' : EntriesReordered inner' visited') :
    ∀ entry ∈ visited, entry.1 ∈ visited'.map Prod.fst := by
  intro entry hentry
  obtain ⟨old, hold, hreordered⟩ := hvisited.exists_of_mem hentry
  obtain ⟨other, hother, hname⟩ := List.mem_map.mp (h old hold)
  obtain ⟨new, hnew, hreordered'⟩ := hvisited'.exists_mem hother
  rw [hreordered.name_eq, ← hname, ← hreordered'.name_eq]
  exact List.mem_map_of_mem hnew

/-- The settings can be brought into one order. -/
theorem backAndForth {inner inner' : List (String × Item)} (h : AddsKeys name inner inner') :
    BackAndForth EntriesReordered (AddsInOrder name) inner inner' := by
  have hkind (entry entry' : String × Item) (hentry : EntryReordered entry entry') :
      isSettingKey name entry'.1 = isSettingKey name entry.1 := by
    rw [hentry.name_eq]
  constructor
  · intro visited hvisited
    obtain ⟨visited', hvisited', hsame⟩ :=
      hvisited.exists_filter_eq EntryReordered.refl hkind h.settings_perm.symm
    exact ⟨visited', hvisited', kept_of_reordered h.kept hvisited hvisited', hsame⟩
  · intro visited' hvisited'
    obtain ⟨visited, hvisited, hsame⟩ :=
      hvisited'.exists_filter_eq EntryReordered.refl hkind h.settings_perm
    exact ⟨visited, hvisited, kept_of_reordered h.kept hvisited hvisited', hsame.symm⟩

end AddsKeys

/-! ## Entries -/

/-- Where the items below are alike, those with the entries over them are alike.  A list may be
    displaced at least where the entries open a table. -/
structure EntryKeepsAlike (mayOpen : String → Prop) (entry entry' : String × Item) : Prop where
  name_eq : entry'.1 = entry.1
  alike : ∀ name ∈ sectionNames, (Place.ofKey entry.1).first = name →
    ∀ mayDisplace : Prop, (mayOpen name → mayDisplace) → ∀ a b : Item,
      Alike mayDisplace name a b → Alike mayDisplace name (afterEntry a entry) (afterEntry b entry')

/-- Where the items below are alike, they are so with the entry over the second. -/
def EntryLeavesAlike (mayOpen : String → Prop) (entry : String × Item) : Prop :=
  ∀ name ∈ sectionNames, (Place.ofKey entry.1).first = name →
    ∀ mayDisplace : Prop, (mayOpen name → mayDisplace) → ∀ a b : Item,
      Alike mayDisplace name a b → Alike mayDisplace name a (afterEntry b entry)

variable {mayOpen : String → Prop}

theorem EntryKeepsAlike.refl (entry : String × Item) : EntryKeepsAlike mayOpen entry entry :=
  ⟨rfl, fun _ _ _ _ _ _ _ hab => hab.update _ _⟩

theorem IsForeignKey.first_ne {key name : String} (h : IsForeignKey key)
    (hname : name ∈ sectionNames) : (Place.ofKey key).first ≠ name := by
  have hbare := List.all_eq_true.mp h.bare
  rw [Place.ofKey_of_isNameChar fun c hc => Place.isNameChar_of_isBare (hbare c hc)]
  rintro rfl
  exact h.not_section hname

theorem IsForeignKey.keepsAlike {key : String} (h : IsForeignKey key) (item item' : Item) :
    EntryKeepsAlike mayOpen (key, item) (key, item') :=
  ⟨rfl, fun _ hname hfirst => absurd hfirst (h.first_ne hname)⟩

theorem IsForeignKey.leavesAlike {key : String} (h : IsForeignKey key) (item : Item) :
    EntryLeavesAlike mayOpen (key, item) :=
  fun _ hname hfirst => absurd hfirst (h.first_ne hname)

theorem afterEntry_table {key name : String} (hname : name ∈ sectionNames)
    (hkey : Text.lowered key = name) (origin : Option String) (old : Item)
    (inner : List (String × Item)) :
    afterEntry old (key, .table origin inner) = old.merge inner := by
  rw [afterEntry, Place.ofKey_of_lowered_eq hname hkey]
  rfl

/-- A table of a section with more keys in it. -/
theorem AddsInOrder.keepsAlike {key name : String} (hname : name ∈ sectionNames)
    (hkey : Text.lowered key = name) (origin : Option String) {inner inner' : List (String × Item)}
    (hadds : AddsInOrder name inner inner') (hopen : inner = [] → mayOpen name) :
    EntryKeepsAlike mayOpen (key, .table origin inner) (key, .table origin inner') := by
  refine ⟨rfl, fun other _ hfirst mayDisplace hmay a b hab => ?_⟩
  rw [Place.ofKey_of_lowered_eq hname hkey] at hfirst
  subst hfirst
  rw [afterEntry_table hname hkey, afterEntry_table hname hkey]
  exact hab.merge hadds fun hnil => .inr (hmay (hopen hnil))

/-- A table of a section without settings. -/
theorem AddsInOrder.leavesAlike {key name : String} (hname : name ∈ sectionNames)
    (hkey : Text.lowered key = name) (origin : Option String) {inner : List (String × Item)}
    (hadds : AddsInOrder name [] inner) (hopen : mayOpen name) :
    EntryLeavesAlike mayOpen (key, .table origin inner) := by
  intro other _ hfirst mayDisplace hmay a b hab
  rw [Place.ofKey_of_lowered_eq hname hkey] at hfirst
  subst hfirst
  rw [afterEntry_table hname hkey]
  have hmerge := hab.merge hadds fun _ => .inr (hmay hopen)
  rwa [Item.merge] at hmerge

/-- The entry of a document as an entry of its layer. -/
def entryOf (origin : Option String) (entry : String × Toml.Value) : String × Item :=
  (entry.1, Item.ofDatum origin entry.2.datum)

theorem entryOf_table (origin : Option String) (key : String)
    (inner : List (String × Toml.Value)) :
    entryOf origin (key, .table inner) = (key, .table origin (inner.map (entryOf origin))) := by
  simp only [entryOf, Toml.Value.datum, Item.ofDatum, ofEntries_entryData]
  rfl

/-- An entry and what it becomes. -/
theorem Grows.backAndForth {entry entry' : String × Toml.Value} (h : Grows mayOpen entry entry')
    (origin : Option String) :
    BackAndForth EntryReordered (EntryKeepsAlike mayOpen) (entryOf origin entry)
      (entryOf origin entry') := by
  cases h with
  | same => exact .refl EntryKeepsAlike.refl _
  | foreign hkey value value' =>
    constructor
    · rintro _ ⟨key, -⟩
      exact ⟨_, .refl _, hkey.keepsAlike _ _⟩
    · rintro _ ⟨key, -⟩
      exact ⟨_, .refl _, hkey.keepsAlike _ _⟩
  | @inside key name hname hkey inner inner' hinner hopen =>
    have hboth := (hinner.map fun value => Item.ofDatum origin value.datum).backAndForth
    have hnil (h : EntriesReordered (inner.map (entryOf origin)) []) : mayOpen name :=
      hopen (List.map_eq_nil_iff.mp h.eq_nil)
    rw [entryOf_table, entryOf_table]
    constructor
    · rintro _ ⟨key, hitem⟩
      cases hitem with
      | table origin hperm hentries =>
        obtain ⟨visited', ⟨_, hperm', hentries'⟩, hadds⟩ := hboth.forth _ ⟨_, hperm, hentries⟩
        refine ⟨_, .intro key (.table origin hperm' hentries'),
          hadds.keepsAlike hname hkey origin ?_⟩
        rintro rfl
        exact hnil ⟨_, hperm, hentries⟩
    · rintro _ ⟨key, hitem⟩
      cases hitem with
      | table origin hperm' hentries' =>
        obtain ⟨visited, ⟨_, hperm, hentries⟩, hadds⟩ := hboth.back _ ⟨_, hperm', hentries'⟩
        refine ⟨_, .intro key (.table origin hperm hentries),
          hadds.keepsAlike hname hkey origin ?_⟩
        rintro rfl
        exact hnil ⟨_, hperm, hentries⟩

theorem IsNew.leavesAlike {entry : String × Toml.Value} (h : IsNew mayOpen entry)
    (origin : Option String) {entry' : String × Item}
    (hentry : EntryReordered (entryOf origin entry) entry') : EntryLeavesAlike mayOpen entry' := by
  cases h with
  | foreign hkey value =>
    obtain ⟨key, -⟩ := hentry
    exact hkey.leavesAlike _
  | @opened key name hname hkey inner hinner hopen =>
    rw [entryOf_table] at hentry
    obtain ⟨key, hitem⟩ := hentry
    cases hitem with
    | table origin hperm hentries =>
      have hboth := (hinner.map fun value => Item.ofDatum origin value.datum).backAndForth
      obtain ⟨visited, hnil, hadds⟩ := hboth.back _ ⟨_, hperm, hentries⟩
      obtain ⟨_, hnil, hforall⟩ := hnil
      cases List.nil_perm.mp hnil
      cases hforall
      exact hadds.leavesAlike hname hkey origin hopen

/-! ## Layers -/

section About

variable {α : Type} {name key : String}

theorem about_cons_of_eq (h : (Place.ofKey key).first = name) (value : α)
    (entries : List (String × α)) :
    about name ((key, value) :: entries) = (key, value) :: about name entries := by
  simp [about, h]

theorem about_cons_of_ne (h : (Place.ofKey key).first ≠ name) (value : α)
    (entries : List (String × α)) :
    about name ((key, value) :: entries) = about name entries := by
  simp [about, h]

end About

/-- Where the items below are alike, those with the layers over them are alike. -/
def KeepsAlike (mayOpen : String → Prop) (layer layer' : Layer) : Prop :=
  ∀ name ∈ sectionNames, ∀ mayDisplace : Prop, (mayOpen name → mayDisplace) → ∀ a b : Item,
    Alike mayDisplace name a b →
      Alike mayDisplace name ((about name layer).foldl afterEntry a)
        ((about name layer').foldl afterEntry b)

/-- Two layers that are about the sections with the same entries. -/
theorem KeepsAlike.of_about_eq {layer layer' : Layer}
    (h : ∀ name ∈ sectionNames, about name layer' = about name layer) :
    KeepsAlike mayOpen layer layer' := by
  intro name hname mayDisplace _ a b hab
  rw [h name hname]
  induction about name layer generalizing a b with
  | nil => exact hab
  | cons entry entries ih => exact ih _ _ (hab.update _ _)

theorem KeepsAlike.refl (layer : Layer) : KeepsAlike mayOpen layer layer :=
  .of_about_eq fun _ _ => rfl

/-- Entry by entry. -/
theorem KeepsAlike.of_inserts {layer layer' : Layer}
    (h : Inserts (EntryKeepsAlike mayOpen) (EntryLeavesAlike mayOpen) layer layer') :
    KeepsAlike mayOpen layer layer' := by
  intro name hname mayDisplace hmay a b hab
  induction h generalizing a b with
  | nil => exact hab
  | @keep entry entry' hentry _ _ _ ih =>
    obtain ⟨_, item⟩ := entry
    obtain ⟨key, item'⟩ := entry'
    obtain ⟨rfl, halike⟩ := hentry
    by_cases hfirst : (Place.ofKey key).first = name
    · rw [about_cons_of_eq hfirst, about_cons_of_eq hfirst]
      exact ih _ _ (halike name hname hfirst mayDisplace hmay a b hab)
    · rw [about_cons_of_ne hfirst, about_cons_of_ne hfirst]
      exact ih a b hab
  | @insert entry hentry _ _ _ ih =>
    obtain ⟨key, item⟩ := entry
    by_cases hfirst : (Place.ofKey key).first = name
    · rw [about_cons_of_eq hfirst]
      exact ih _ _ (hentry name hname hfirst mayDisplace hmay a b hab)
    · rw [about_cons_of_ne hfirst]
      exact ih a b hab

/-- The layers of documents of which the second adds to the first. -/
theorem Adds.backAndForth {entries entries' : List (String × Toml.Value)}
    (h : Adds mayOpen entries entries') (origin : Option String) :
    BackAndForth EntriesReordered (KeepsAlike mayOpen)
      (Item.ofEntries origin (Toml.entryData entries))
      (Item.ofEntries origin (Toml.entryData entries')) := by
  obtain ⟨ordered, hinserts, hperm⟩ := h
  have hitems : Inserts (BackAndForth EntryReordered (EntryKeepsAlike mayOpen))
      (fun entry => ∀ entry', EntryReordered entry entry' → EntryLeavesAlike mayOpen entry')
      (entries.map (entryOf origin)) (ordered.map (entryOf origin)) :=
    hinserts.map (fun _ _ hgrows => hgrows.backAndForth origin)
      fun _ hnew _ => hnew.leavesAlike origin
  rw [ofEntries_entryData, ofEntries_entryData]
  exact (hitems.backAndForth EntryReordered.refl (hperm.map _)).imp fun _ _ => .of_inserts

/-- In each section, two items that are alike are there. -/
def AlikeIn (mayDisplace : String → Prop) (below below' : Entries Item) : Prop :=
  ∀ name ∈ sectionNames, ∃ a b, below.get? name = some a ∧ below'.get? name = some b ∧
    Alike (mayDisplace name) name a b

/-- What is built in is alike to itself, in any order. -/
theorem alikeIn_builtIn (mayDisplace : String → Prop) {builtIn : Layer}
    (h : EntriesReordered builtInLayer builtIn) :
    AlikeIn mayDisplace (builtIn.onto []) (builtIn.onto []) := by
  have hsays : Overlaid .fallback [] (builtIn.onto []) :=
    (says_builtInLayer.reordered h).overlaid nofun
  intro name hname
  obtain ⟨setting, rfl⟩ := exists_setting_of_mem_sectionNames name hname
  obtain ⟨origin, hitem⟩ := hsays.has setting _ rfl
  obtain ⟨item, hsection, -⟩ := Option.bind_eq_some_iff.mp hitem
  exact ⟨item, item, hsection, hsection, .refl ..⟩

/-- A layer that opens tables leaves the sections alike if it displaces no list for good. -/
theorem KeepsAlike.onto {mayDisplace : String → Prop} {layer layer' : Layer}
    (h : KeepsAlike mayOpen layer layer') {below below' : Entries Item}
    (hdisplace : ∀ name item, (layer.onto below).get? name = some item → item.IsList →
      mayOpen name → mayDisplace name)
    (hbelow : AlikeIn mayDisplace below below') :
    AlikeIn mayDisplace (layer.onto below) (layer'.onto below') := by
  intro name hname
  obtain ⟨a, b, ha, hb, hab⟩ := hbelow name hname
  have hitem := get?_onto hname layer ha
  have halike := h name hname (mayOpen name ∨ mayDisplace name) .inl a b
    (hab.imp fun _ => .inr)
  refine ⟨_, _, hitem, get?_onto hname layer' hb, halike.imp fun hlist hmay => ?_⟩
  exact hmay.elim (hdisplace name _ hitem hlist) id

/-- Items that are alike decode to the same settings, if no list has been displaced. -/
theorem AlikeIn.decode_eq_ok {mayDisplace : String → Prop} {entries entries' : Entries Item}
    (h : AlikeIn mayDisplace entries entries')
    (hlist : ∀ name item, entries.get? name = some item → item.IsList → ¬ mayDisplace name)
    {settings : Settings} (hdecode : decode entries = .ok settings) :
    decode entries' = .ok settings := by
  rw [decode_eq_ok_iff] at hdecode ⊢
  obtain ⟨hsections, hvalues⟩ := hdecode
  -- either nothing has changed in the section, or both are tables
  have hcases (setting : Setting) :
      entries'.get? setting.sectionName = entries.get? setting.sectionName ∨
      ∃ origin inner origin' inner',
        entries.get? setting.sectionName = some (.table origin inner) ∧
        entries'.get? setting.sectionName = some (.table origin' inner') ∧
        SameSettings setting.sectionName inner inner' := by
    obtain ⟨a, b, ha, hb, hsettings, hshape⟩ := h _ setting.sectionName_mem
    rcases hshape with rfl | ⟨hnoList, _, _, rfl⟩ | ⟨hmay, hisList⟩
    · exact .inl (hb.trans ha.symm)
    · have hsection := hsections setting a ha
      cases a with
      | scalar => exact hsection.elim
      | list => exact absurd ⟨_, _, rfl⟩ hnoList
      | table => exact .inr ⟨_, _, _, _, ha, hb, hsettings⟩
    · exact absurd hmay (hlist _ a ha hisList)
  constructor
  · intro setting item hitem
    rcases hcases setting with hsame | ⟨_, _, _, _, -, hb, -⟩
    · exact hsections setting item (hsame ▸ hitem)
    · rw [hb] at hitem
      cases hitem
      trivial
  · intro setting
    rw [← hvalues setting]
    rcases hcases setting with hsame | ⟨_, _, _, _, ha, hb, hsettings⟩
    · rw [Setting.item?, Setting.item?, hsame]
    · rw [Setting.item?, Setting.item?, ha, hb]
      exact congrArg setting.decode? (hsettings setting rfl).symm

/-! ## Files -/

/-- What is found at a path is a document with these entries, or no file if there are none. -/
inductive Describes : Sight → List (String × Toml.Value) → Prop where
  | nothing : Describes .nothing []
  | file {contents : Bytes} {text : List Char} {entries : List (String × Toml.Value)}
      (htext : Utf8.decode? contents = some text)
      (hdocument : Toml.parse? text = some (.table entries)) : Describes (.file contents) entries

/-- The file at a path is as it was, or it is a document that adds to the one it was. -/
inductive AddsToFile (mayOpen : String → Prop) (before after : Surroundings) (path : Path) :
    Prop where
  | unchanged (hlook : after.look path = before.look path)
      (hsubstitutes : ∀ substitute ∈ Layer.substitutes path,
        after.look substitute.1 = before.look substitute.1)
  | document {entries entries' : List (String × Toml.Value)}
      (hbefore : Describes (before.look path) entries)
      (hafter : Describes (after.look path) entries')
      (hadds : Adds mayOpen entries entries')

theorem Describes.ofFile_eq {surroundings : Surroundings} {path : Path}
    {entries : List (String × Toml.Value)} (h : Describes (surroundings.look path) entries) :
    Layer.ofFile surroundings path =
      .ok (Item.ofEntries (some (Utf8.display (path.relativeTo surroundings.directory)))
        (Toml.entryData entries)) := by
  unfold Layer.ofFile
  generalize surroundings.look path = sight at h
  cases h with
  | nothing => rfl
  | file htext hdocument =>
    simp only [Layer.ofSight, htext, Layer.ofDocument, Format.read, hdocument, Toml.Value.datum]

/-- The same file is found where a path and its substitutes lead to the same. -/
theorem ofFile_eq_of_look_eq {before after : Surroundings} {path : Path}
    (hdirectory : after.directory = before.directory) (hlook : after.look path = before.look path)
    (hsubstitutes : ∀ substitute ∈ Layer.substitutes path,
      after.look substitute.1 = before.look substitute.1) :
    Layer.ofFile after path = Layer.ofFile before path := by
  have hfind : (Layer.substitutes path).find? (Layer.leadsToFile after ·.1) =
      (Layer.substitutes path).find? (Layer.leadsToFile before ·.1) := by
    rw [← List.head?_filter, ← List.head?_filter]
    refine congrArg _ (List.filter_congr fun substitute hmem => ?_)
    rw [Layer.leadsToFile, Layer.leadsToFile, hsubstitutes substitute hmem]
  unfold Layer.ofFile
  rw [hlook, hdirectory, hfind]
  split
  · split
    · next substitute format hfound =>
      rw [hsubstitutes _ (List.mem_of_find?_eq_some hfound)]
    · rfl
  · rfl

/-- The layers of the file in both processes. -/
theorem AddsToFile.layer {before after : Surroundings} {path : Path}
    (h : AddsToFile mayOpen before after path) (hdirectory : after.directory = before.directory)
    {layer : Layer} (hlayer : Layer.ofFile before path = .ok layer) :
    ∃ layer', Layer.ofFile after path = .ok layer' ∧
      BackAndForth EntriesReordered (KeepsAlike mayOpen) layer layer' := by
  cases h with
  | unchanged hlook hsubstitutes =>
    rw [ofFile_eq_of_look_eq hdirectory hlook hsubstitutes]
    exact ⟨layer, hlayer, .refl KeepsAlike.refl layer⟩
  | document hbefore hafter hadds =>
    rw [hbefore.ofFile_eq, Except.ok.injEq] at hlayer
    subst hlayer
    refine ⟨_, hafter.ofFile_eq, ?_⟩
    rw [hdirectory]
    exact hadds.backAndForth _

/-! ## Variables -/

/-- What the names of variables about a section begin with, in lower case. -/
def sectionPrefixes : List String :=
  ["kcov_runner__tools", "kcov_runner__coverage"]

/-- The name of a variable that is about no section, in any letter case, and that does not
    locate a file. -/
structure IsForeignName (locating : List String) (name : String) : Prop where
  not_section : ∀ start ∈ sectionPrefixes, ¬ start.toList <+: Text.lowerCase name.toList
  no_bracket : '[' ∉ name.toList
  not_locating : name ∉ locating

/-- The second process has the variables of the first and others with text, about no
    section. -/
inductive AddsVariables (locating : List String) : VariableBlock → VariableBlock → Prop where
  | nil : AddsVariables locating [] []
  | keep (binding : Bytes × Bytes) {bindings bindings' : VariableBlock}
      (h : AddsVariables locating bindings bindings') :
      AddsVariables locating (binding :: bindings) (binding :: bindings')
  | add {name : String} (hname : IsForeignName locating name) (text : String)
      {bindings bindings' : VariableBlock} (h : AddsVariables locating bindings bindings') :
      AddsVariables locating bindings
        ((Utf8.ofString name, Utf8.ofString text) :: bindings')
  /-- in place of what the variable had -/
  | replace {name : String} (hname : IsForeignName locating name) (value : Bytes) (text : String)
      {bindings bindings' : VariableBlock} (h : AddsVariables locating bindings bindings') :
      AddsVariables locating ((Utf8.ofString name, value) :: bindings)
        ((Utf8.ofString name, Utf8.ofString text) :: bindings')

/-- The key is about a section. -/
def isAboutSection (key : String) : Bool :=
  decide ((Place.ofKey key).first ∈ sectionNames)

/-- The entries about the sections, in their order. -/
def aboutSections (entries : List (String × Item)) : List (String × Item) :=
  entries.filter fun entry => isAboutSection entry.1

theorem KeepsAlike.of_aboutSections_eq {layer layer' : Layer}
    (h : aboutSections layer' = aboutSections layer) : KeepsAlike mayOpen layer layer' := by
  have habout {name : String} (hname : name ∈ sectionNames) (entries : List (String × Item)) :
      about name entries = about name (aboutSections entries) := by
    rw [about, about, aboutSections, List.filter_filter]
    refine List.filter_congr fun entry _ => ?_
    by_cases hfirst : (Place.ofKey entry.1).first = name
    · simp [hfirst, isAboutSection, hname]
    · simp [hfirst]
  refine .of_about_eq fun name hname => ?_
  rw [habout hname layer', h, ← habout hname]

/-- A foreign variable is about no section. -/
theorem IsForeignName.aboutSections_eq {locating : List String} {name : String}
    (h : IsForeignName locating name) (text : List Char) (values : Entries (List Char)) :
    aboutSections (((name, text) :: values).filterMap Layer.ofVariable?) =
      aboutSections (values.filterMap Layer.ofVariable?) := by
  cases hkey : Layer.keyOf? name with
  | none => rw [List.filterMap_cons_none (by rw [Layer.ofVariable?, hkey, Option.map_none])]
  | some key =>
    have hother : isAboutSection key = false := by
      rw [isAboutSection, decide_eq_false_iff_not]
      intro hsection
      have hstart := Layer.isPrefix_of_keyOf? hkey hsection rfl
      have hprefix : ∀ name ∈ sectionNames, ∃ start ∈ sectionPrefixes,
          start.toList = Layer.variablePrefix ++ name.toList := by
        decide
      obtain ⟨start, hmem, heq⟩ := hprefix _ hsection
      exact h.not_section start hmem (heq ▸ hstart)
    rw [List.filterMap_cons_some (by rw [Layer.ofVariable?, hkey, Option.map_some]),
      aboutSections, List.filter_cons, hother]
    rfl

namespace AddsVariables

variable {locating : List String} {bindings bindings' : VariableBlock}

/-- The variables are text if those of the first process are, and about the sections they say the
    same. -/
theorem exists_values (h : AddsVariables locating bindings bindings')
    {values : Entries (List Char)} (hvalues : values.map bytesOf = bindings) :
    ∃ values' : Entries (List Char), values'.map bytesOf = bindings' ∧
      aboutSections (values'.filterMap Layer.ofVariable?) =
        aboutSections (values.filterMap Layer.ofVariable?) := by
  induction h generalizing values with
  | nil => exact ⟨values, hvalues, rfl⟩
  | keep binding h ih =>
    obtain ⟨value, rest, rfl, rfl, hrest⟩ := List.map_eq_cons_iff.mp hvalues
    obtain ⟨rest', hrest', hsame⟩ := ih hrest
    refine ⟨value :: rest', by rw [List.map_cons, hrest'], ?_⟩
    simp only [List.filterMap_cons]
    cases Layer.ofVariable? value with
    | none => exact hsame
    | some entry =>
      simp only [aboutSections, List.filter_cons] at hsame ⊢
      rw [hsame]
  | @add name hname text _ _ h ih =>
    obtain ⟨rest', hrest', hsame⟩ := ih hvalues
    refine ⟨(name, text.toList) :: rest', by rw [List.map_cons, hrest']; rfl, ?_⟩
    rw [hname.aboutSections_eq, hsame]
  | @replace name hname value text _ _ h ih =>
    obtain ⟨⟨other, old⟩, rest, rfl, heq, hrest⟩ := List.map_eq_cons_iff.mp hvalues
    obtain rfl := Utf8.ofString_injective (Prod.mk.inj heq).1
    obtain ⟨rest', hrest', hsame⟩ := ih hrest
    refine ⟨(other, text.toList) :: rest', by rw [List.map_cons, hrest']; rfl, ?_⟩
    rw [hname.aboutSections_eq, hname.aboutSections_eq, hsame]

/-- The layers of the variables. -/
theorem backAndForth {values values' : Entries (List Char)}
    (h : aboutSections (values'.filterMap Layer.ofVariable?) =
      aboutSections (values.filterMap Layer.ofVariable?)) :
    BackAndForth EntriesReordered (KeepsAlike mayOpen) (Layer.ofVariables values)
      (Layer.ofVariables values') := by
  have hkind (entry entry' : String × Item) (hentry : EntryReordered entry entry') :
      isAboutSection entry'.1 = isAboutSection entry.1 := by
    rw [hentry.name_eq]
  have hsame : aboutSections (Layer.ofVariables values') =
      aboutSections (Layer.ofVariables values) := by
    simp only [aboutSections, Layer.ofVariables, Entries.filter_setAll] at h ⊢
    rw [h]
  constructor
  · intro visited hvisited
    obtain ⟨visited', hvisited', heq⟩ :=
      hvisited.exists_filter_eq EntryReordered.refl hkind (.of_eq hsame.symm)
    exact ⟨visited', hvisited', .of_aboutSections_eq heq⟩
  · intro visited' hvisited'
    obtain ⟨visited, hvisited, heq⟩ :=
      hvisited'.exists_filter_eq EntryReordered.refl hkind (.of_eq hsame)
    exact ⟨visited, hvisited, .of_aboutSections_eq heq.symm⟩

/-- The variables that locate files have what they had. -/
theorem get?_eq (h : AddsVariables locating bindings bindings') {name : String}
    (hname : name ∈ locating) :
    bindings'.get? (Utf8.ofString name) = bindings.get? (Utf8.ofString name) := by
  have hne {other : String} (hforeign : IsForeignName locating other) :
      Utf8.ofString other ≠ Utf8.ofString name := by
    intro heq
    rw [Utf8.ofString_injective heq] at hforeign
    exact hforeign.not_locating hname
  induction h with
  | nil => rfl
  | keep binding h ih => rw [Entries.get?, Entries.get?, ih]
  | add hforeign text h ih => rw [Entries.get?, if_neg (hne hforeign), ih]
  | replace hforeign value text h ih =>
    rw [Entries.get?, Entries.get?, if_neg (hne hforeign), if_neg (hne hforeign), ih]

end AddsVariables
end TestCoverage.Settings
