/-
  TestCoverage.Proofs.Settings.Decoding

  When items can be decoded: each section that is there is a table or a list, and each
  setting has what its section says about it, or its fallback.
-/
import TestCoverage.Proofs.Except
import TestCoverage.Proofs.Settings.Setting
import Mathlib.Tactic.Common

namespace TestCoverage.Settings

/-! ## One setting -/

namespace Setting

/-- The value of the setting that an item stands for. -/
def decode : (setting : Setting) → Item → Except SettingsError setting.Value
  | text setting, item => decodeText setting.name item
  | keepGoing, item => decodeBool keepGoing.name item

/-- The value of the setting, given what its section says about it. -/
def decode? (setting : Setting) : Option Item → Except SettingsError setting.Value
  | some item => setting.decode item
  | none => .ok setting.fallback

/-- What a section says about the setting: a table under its name, a list at its place. -/
def itemIn? (setting : Setting) : Item → Option Item
  | .table _ entries => Entries.get? entries setting.name
  | .list _ elements => elements[setting.index]?
  | .scalar .. => none

/-- What all items say about the setting. -/
def item? (setting : Setting) (entries : Entries Item) : Option Item :=
  (entries.get? setting.sectionName).bind setting.itemIn?

end Setting

/-- The key that a text is called by shows in errors only. -/
theorem decodeText_eq_ok_iff_of_key (key key' : String) {item : Item}
    {text : String} : decodeText key item = .ok text ↔ decodeText key' item = .ok text := by
  unfold decodeText
  split <;> simp [refuse]

/-- The key that a truth value is called by shows in errors only. -/
theorem decodeBool_eq_ok_iff_of_key (key key' : String) {item : Item}
    {value : Bool} : decodeBool key item = .ok value ↔ decodeBool key' item = .ok value := by
  unfold decodeBool
  split <;> simp only [refuse, reduceCtorEq]
  split_ifs <;> simp

/-! ## The members of a section -/

section Members

variable {σ : Type} {setting : Setting} {set : setting.Value → σ → σ} {member : Member σ}

/-- The member is the setting: it puts the setting's value into the section. -/
structure Setting.IsMember (setting : Setting) (set : setting.Value → σ → σ)
    (member : Member σ) : Prop where
  name_eq : member.name = setting.name
  decode_eq_ok_iff : ∀ {key : String} {item : Item} {s s' : σ},
    member.decode key item s = .ok s' ↔
      ∃ value, setting.decode item = .ok value ∧ set value s = s'

theorem Setting.IsMember.of_text (setting : TextSetting) (set : String → σ → σ) :
    (text setting).IsMember set (.text setting.name set) where
  name_eq := rfl
  decode_eq_ok_iff := by
    intro key item s s'
    simp only [Member.text, Except.map_eq_ok_iff, decode]
    simp only [decodeText_eq_ok_iff_of_key key setting.name]

theorem Setting.IsMember.of_bool (set : Bool → σ → σ) :
    keepGoing.IsMember set (.bool keepGoing.name set) where
  name_eq := rfl
  decode_eq_ok_iff := by
    intro key item s s'
    simp only [Member.bool, Except.map_eq_ok_iff, decode]
    simp only [decodeBool_eq_ok_iff_of_key key keepGoing.name]

theorem Setting.IsMember.decode_bind_eq_ok_iff (h : setting.IsMember set member)
    {key : String} {item : Item} {s s' : σ} {rest : σ → Except SettingsError σ} :
    (member.decode key item s >>= rest) = .ok s' ↔
      ∃ value, setting.decode item = .ok value ∧ rest (set value s) = .ok s' := by
  simp only [Except.bind_eq_ok_iff, h.decode_eq_ok_iff]
  constructor
  · rintro ⟨_, ⟨value, hvalue, rfl⟩, hrest⟩
    exact ⟨value, hvalue, hrest⟩
  · rintro ⟨value, hvalue, hrest⟩
    exact ⟨_, ⟨value, hvalue, rfl⟩, hrest⟩

/-- A way to decode the members from some place on, which gives each setting what is said
    about it, or leaves it as it is. -/
structure Follows (run : Nat → List (Member σ) → σ → Except SettingsError σ)
    (said : Setting → Option Item) : Prop where
  nil : ∀ place s, run place [] s = .ok s
  cons : ∀ {setting : Setting} {set : setting.Value → σ → σ} {member : Member σ},
    setting.IsMember set member → ∀ {s s' : σ}, set setting.fallback s = s →
    ∀ {members : List (Member σ)}, run setting.index (member :: members) s = .ok s' ↔
      ∃ value, setting.decode? (said setting) = .ok value ∧
        run (setting.index + 1) members (set value s) = .ok s'

/-- A table is decoded by names. -/
theorem follows_decodeTable (header : String) (entries : Entries Item) :
    @Follows σ (fun _ => decodeTable header entries) fun setting =>
      entries.get? setting.name where
  nil _ _ := rfl
  cons {setting _ _} hmember _ _ hfallback _ := by
    rw [decodeTable, hmember.name_eq]
    cases entries.get? setting.name with
    | none => simp [Except.bind_eq_ok_iff, Setting.decode?, hfallback]
    | some item => exact hmember.decode_bind_eq_ok_iff

/-- A list is decoded by places. -/
theorem follows_decodeList (header : String) (elements : List Item) :
    @Follows σ (fun place => decodeList header place (elements.drop place))
      fun setting => elements[setting.index]? where
  nil place _ := by cases elements.drop place <;> rfl
  cons {setting _ _} hmember _ _ hfallback _ := by
    rw [← List.head?_drop, ← List.tail_drop]
    cases elements.drop setting.index with
    | nil => simp [Setting.decode?, decodeList, hfallback]
    | cons item elements => exact hmember.decode_bind_eq_ok_iff

end Members

/-! ## Sections -/

/-- The item can be a section: a table, or the settings in order. -/
def Item.IsSection : Item → Prop
  | .scalar .. => False
  | _ => True

theorem decodeTable_nil {σ : Type} (header : String) (members : List (Member σ)) (s : σ) :
    decodeTable header [] members s = .ok s := by
  induction members with
  | nil => rfl
  | cons member members ih => exact ih

/-- A section that is not there is like an empty table. -/
theorem decodeSection_eq_ok_iff {σ : Type} {name expected : String}
    {members : List (Member σ)} {fallback : σ} {From : (Setting → Option Item) → σ → Prop}
    (hfrom : ∀ {run said}, Follows run said →
      ∀ {value}, run 0 members fallback = .ok value ↔ From said value)
    {entries : Entries Item} {value : σ} :
    decodeSection name expected members fallback entries = .ok value ↔
      (∀ item ∈ entries.get? name, item.IsSection) ∧
        From (fun setting => (entries.get? name).bind setting.itemIn?) value := by
  rw [decodeSection]
  rcases entries.get? name with _ | ⟨_, _⟩ | ⟨_, elements⟩ | ⟨_, inner⟩
  · have hempty := @hfrom _ _ (follows_decodeTable name []) value
    simpa [decodeTable_nil, Entries.get?] using hempty
  · simp [Item.IsSection]
  · simpa [Item.IsSection, Setting.itemIn?] using hfrom (follows_decodeList name elements)
  · simpa [Item.IsSection, Setting.itemIn?] using hfrom (follows_decodeTable name inner)

/-- The programs are what is said about them. -/
structure ToolsFrom (said : Setting → Option Item) (tools : Tools) : Prop where
  cargo : (Setting.text .cargo).decode? (said (.text .cargo)) = .ok tools.cargo
  rustc : (Setting.text .rustc).decode? (said (.text .rustc)) = .ok tools.rustc
  kcov : (Setting.text .kcov).decode? (said (.text .kcov)) = .ok tools.kcov

theorem Follows.toolMembers_iff
    {run : Nat → List (Member Tools) → Tools → Except SettingsError Tools}
    {said : Setting → Option Item} (h : Follows run said) {tools : Tools} :
    run 0 toolMembers {} = .ok tools ↔ ToolsFrom said tools := by
  have hcargo := @h.cons _ _ _ (.of_text .cargo fun cargo tools => { tools with cargo })
  have hrustc := @h.cons _ _ _ (.of_text .rustc fun rustc tools => { tools with rustc })
  have hkcov := @h.cons _ _ _ (.of_text .kcov fun kcov tools => { tools with kcov })
  constructor
  · intro hrun
    obtain ⟨cargo, hcargo, hrun⟩ := (hcargo rfl).mp hrun
    obtain ⟨rustc, hrustc, hrun⟩ := (hrustc rfl).mp hrun
    obtain ⟨kcov, hkcov, hrun⟩ := (hkcov rfl).mp hrun
    cases (h.nil _ _).symm.trans hrun
    exact ⟨hcargo, hrustc, hkcov⟩
  · intro hfrom
    refine (hcargo rfl).mpr ⟨_, hfrom.cargo, ?_⟩
    refine (hrustc rfl).mpr ⟨_, hfrom.rustc, ?_⟩
    exact (hkcov rfl).mpr ⟨_, hfrom.kcov, h.nil _ _⟩

/-- The settings of a run are what is said about them. -/
structure CoverageFrom (said : Setting → Option Item) (coverage : Coverage) : Prop where
  rustflags : (Setting.text .rustflags).decode? (said (.text .rustflags)) =
    .ok coverage.rustflags
  excludePattern : (Setting.text .excludePattern).decode? (said (.text .excludePattern)) =
    .ok coverage.excludePattern
  outputSubdir : (Setting.text .outputSubdir).decode? (said (.text .outputSubdir)) =
    .ok coverage.outputSubdir
  keepGoing : Setting.keepGoing.decode? (said .keepGoing) = .ok coverage.keepGoing

theorem Follows.coverageMembers_iff
    {run : Nat → List (Member Coverage) → Coverage → Except SettingsError Coverage}
    {said : Setting → Option Item} (h : Follows run said) {coverage : Coverage} :
    run 0 coverageMembers {} = .ok coverage ↔ CoverageFrom said coverage := by
  have hrustflags := @h.cons _ _ _ (.of_text .rustflags
    fun rustflags coverage => { coverage with rustflags })
  have hexclude := @h.cons _ _ _ (.of_text .excludePattern
    fun excludePattern coverage => { coverage with excludePattern })
  have houtput := @h.cons _ _ _ (.of_text .outputSubdir
    fun outputSubdir coverage => { coverage with outputSubdir })
  have hkeep := @h.cons _ _ _ (.of_bool fun keepGoing coverage => { coverage with keepGoing })
  constructor
  · intro hrun
    obtain ⟨rustflags, hrustflags, hrun⟩ := (hrustflags rfl).mp hrun
    obtain ⟨excludePattern, hexclude, hrun⟩ := (hexclude rfl).mp hrun
    obtain ⟨outputSubdir, houtput, hrun⟩ := (houtput rfl).mp hrun
    obtain ⟨keepGoing, hkeep, hrun⟩ := (hkeep rfl).mp hrun
    cases (h.nil _ _).symm.trans hrun
    exact ⟨hrustflags, hexclude, houtput, hkeep⟩
  · intro hfrom
    refine (hrustflags rfl).mpr ⟨_, hfrom.rustflags, ?_⟩
    refine (hexclude rfl).mpr ⟨_, hfrom.excludePattern, ?_⟩
    refine (houtput rfl).mpr ⟨_, hfrom.outputSubdir, ?_⟩
    exact (hkeep rfl).mpr ⟨_, hfrom.keepGoing, h.nil _ _⟩

/-! ## All items -/

/-- The items that stand for sections can be sections. -/
def Sectioned (entries : Entries Item) : Prop :=
  ∀ setting : Setting, ∀ item ∈ entries.get? setting.sectionName, item.IsSection

/-- Items are decoded setting by setting: each has what its section says about it, or its
    fallback. -/
theorem decode_eq_ok_iff {entries : Entries Item} {settings : Settings} :
    decode entries = .ok settings ↔ Sectioned entries ∧
      ∀ setting : Setting,
        setting.decode? (setting.item? entries) = .ok (setting.get settings) := by
  have hdecode : decode entries = .ok settings ↔
      decodeSection "tools" "struct ToolsConfig" toolMembers {} entries = .ok settings.tools ∧
      decodeSection "coverage" "struct CoverageConfig" coverageMembers {} entries =
        .ok settings.coverage := by
    simp only [decode, Except.bind_eq_ok_iff, pure, Except.pure, Except.ok.injEq]
    constructor
    · rintro ⟨tools, htools, coverage, hcoverage, rfl⟩
      exact ⟨htools, hcoverage⟩
    · rintro ⟨htools, hcoverage⟩
      exact ⟨_, htools, _, hcoverage, rfl⟩
  -- what is said about the seven settings is what is said about those of the two sections
  rw [hdecode, decodeSection_eq_ok_iff Follows.toolMembers_iff,
    decodeSection_eq_ok_iff Follows.coverageMembers_iff]
  constructor
  · rintro ⟨⟨htools, hfromTools⟩, hcoverage, hfromCoverage⟩
    constructor
    · rintro ((_ | _ | _ | _ | _ | _) | _)
      all_goals first | exact htools | exact hcoverage
    · rintro ((_ | _ | _ | _ | _ | _) | _)
      exacts [hfromTools.cargo, hfromTools.rustc, hfromTools.kcov, hfromCoverage.rustflags,
        hfromCoverage.excludePattern, hfromCoverage.outputSubdir, hfromCoverage.keepGoing]
  · rintro ⟨hsections, hsettings⟩
    exact ⟨⟨hsections (.text .cargo), hsettings (.text .cargo), hsettings (.text .rustc),
        hsettings (.text .kcov)⟩,
      hsections .keepGoing, hsettings (.text .rustflags), hsettings (.text .excludePattern),
      hsettings (.text .outputSubdir), hsettings .keepGoing⟩

/-- If each setting can be decoded, all of them can. -/
theorem exists_decode_eq_ok {entries : Entries Item} (hsections : Sectioned entries)
    (hsettings : ∀ setting : Setting, ∃ value,
      setting.decode? (setting.item? entries) = .ok value) :
    ∃ settings, decode entries = .ok settings := by
  choose value hvalue using hsettings
  exact ⟨Setting.assemble value, decode_eq_ok_iff.mpr ⟨hsections, by simpa using hvalue⟩⟩

end TestCoverage.Settings
