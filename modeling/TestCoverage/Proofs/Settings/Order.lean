/-
  TestCoverage.Proofs.Settings.Order

  Loading with the entries of every table in any order.  The tables of a document are hashed,
  and so are the variables, so the order in which the entries of a layer are gone through is
  open, and so is the outcome if two of them are about the same place.

  Layers of well-typed values have one outcome: what they say depends on which entries they
  have, and not on the order.
-/
import TestCoverage.Proofs.Inserts
import TestCoverage.Proofs.Settings.Precedence

namespace TestCoverage.Settings

/-! ## Items in another order -/

namespace Item

mutual

/-- The items differ at most in the order of the entries of tables, at any depth. -/
inductive Reordered : Item → Item → Prop where
  | scalar (origin : Option String) (value : Scalar) :
      Reordered (.scalar origin value) (.scalar origin value)
  | list (origin : Option String) {elements elements' : List Item}
      (h : List.Forall₂ Reordered elements elements') :
      Reordered (.list origin elements) (.list origin elements')
  | table (origin : Option String) {entries ordered entries' : List (String × Item)}
      (hperm : entries.Perm ordered) (h : List.Forall₂ EntryReordered ordered entries') :
      Reordered (.table origin entries) (.table origin entries')

/-- The entries have the same name, and items that differ at most in the order of entries. -/
inductive EntryReordered : String × Item → String × Item → Prop where
  | intro (name : String) {item item' : Item} (h : Reordered item item') :
      EntryReordered (name, item) (name, item')

end

mutual

theorem Reordered.refl : (item : Item) → Reordered item item
  | .scalar origin value => .scalar origin value
  | .list origin elements => .list origin (forall₂_reordered elements)
  | .table origin entries => .table origin (.refl _) (forall₂_entryReordered entries)

theorem forall₂_reordered : (elements : List Item) → List.Forall₂ Reordered elements elements
  | [] => .nil
  | item :: elements => .cons (Reordered.refl item) (forall₂_reordered elements)

theorem forall₂_entryReordered :
    (entries : List (String × Item)) → List.Forall₂ EntryReordered entries entries
  | [] => .nil
  | (name, item) :: entries =>
    .cons (.intro name (Reordered.refl item)) (forall₂_entryReordered entries)

end

theorem EntryReordered.refl (entry : String × Item) : EntryReordered entry entry :=
  .intro entry.1 (.refl entry.2)

theorem EntryReordered.name_eq {entry entry' : String × Item} (h : EntryReordered entry entry') :
    entry'.1 = entry.1 := by
  cases h
  rfl

end Item

open Item

/-- The entries in any order, and so in the tables among them. -/
abbrev EntriesReordered : Entries Item → Entries Item → Prop :=
  Arranged EntryReordered

/-! ## Loading -/

/-- What may come of loading, if the entries of each layer are gone through in some order:
    settings or nothing. -/
inductive MayLoad (surroundings : Surroundings) (project : Option Path) :
    Option Settings → Prop where
  | refused {error : SettingsError} (hlayers : layers surroundings project = .error error) :
      MayLoad surroundings project none
  | decoded {read visited : List Layer} (hlayers : layers surroundings project = .ok read)
      (hvisited : List.Forall₂ EntriesReordered read visited) :
      MayLoad surroundings project (decode (stacked visited)).toOption

/-- One order is that in which the entries are written. -/
theorem mayLoad_load (surroundings : Surroundings) (project : Option Path) :
    MayLoad surroundings project (load surroundings project).toOption := by
  rw [load]
  cases hlayers : layers surroundings project with
  | error error => exact .refused hlayers
  | ok read =>
    exact .decoded hlayers (List.forall₂_same.mpr fun layer _ => .refl EntryReordered.refl layer)

/-- Settings come of some order of the entries. -/
theorem mayLoad_some_iff {surroundings : Surroundings} {project : Option Path}
    {settings : Settings} :
    MayLoad surroundings project (some settings) ↔ ∃ read visited,
      layers surroundings project = .ok read ∧ List.Forall₂ EntriesReordered read visited ∧
        decode (stacked visited) = .ok settings := by
  constructor
  · intro h
    generalize hresult : some settings = result at h
    cases h with
    | refused => cases hresult
    | @decoded read visited hread hvisited =>
      exact ⟨read, visited, hread, hvisited, Except.toOption_eq_some_iff.mp hresult.symm⟩
  · rintro ⟨read, visited, hread, hvisited, hsettings⟩
    rw [← Except.toOption_eq_some_iff.mpr hsettings]
    exact .decoded hread hvisited

/-! ## Well-typed values in any order -/

/-- A layer says the same in any order. -/
theorem Layer.Says.reordered {choice : Choice} {layer visited : Layer} (h : layer.Says choice)
    (hvisited : EntriesReordered layer visited) : visited.Says choice := by
  constructor
  · intro entry hentry
    obtain ⟨_, hmem, ⟨key, hitem⟩⟩ := hvisited.exists_of_mem hentry
    have hchooses := h.only _ hmem
    cases hitem with
    | scalar => exact hchooses
    | list => exact hchooses.elim
    | table origin hperm hinner =>
      refine ⟨hchooses.1, fun member hmember => ?_⟩
      obtain ⟨_, hmem', ⟨name, hitem⟩⟩ := Arranged.exists_of_mem ⟨_, hperm, hinner⟩ hmember
      obtain ⟨setting, value, origin', hkey, heq, hvalue⟩ := hchooses.2 _ hmem'
      cases heq
      cases hitem
      exact ⟨setting, value, origin', hkey, rfl, hvalue⟩
  · intro setting value hvalue
    obtain ⟨entry, hmem, hgives⟩ := h.all setting value hvalue
    -- what has come of the entry gives the same value
    obtain ⟨_, hmem', ⟨key, hitem⟩⟩ := hvisited.exists_mem hmem
    refine ⟨_, hmem', ?_⟩
    cases hitem with
    | scalar => exact hgives
    | list => exact hgives.elim
    | table origin hperm hinner =>
      obtain ⟨hkey, origin', hmember⟩ := hgives
      obtain ⟨_, hmember', ⟨name, hitem⟩⟩ := Arranged.exists_mem ⟨_, hperm, hinner⟩ hmember
      cases hitem
      exact ⟨hkey, origin', hmember'⟩

section Sources

variable {surroundings : Surroundings} {path : Option Path} {project user process : Choice}
  (hproject : PathSays project surroundings (path.map projectFile))
  (huser : PathSays user surroundings (userFile? surroundings))
  (hvariables : VariablesSay process surroundings.bindings)
include hproject huser hvariables

/-- Files and variables that give settings well-typed values come to the same in any order. -/
theorem overlaid_visited {read visited : List Layer} (hread : layers surroundings path = .ok read)
    (hvisited : List.Forall₂ EntriesReordered read visited) :
    Overlaid (process.onto (user.onto (project.onto .fallback))) [] (stacked visited) ∧
      decode (stacked visited) = .ok (process.layered user project) := by
  obtain ⟨ofProject, ofUser, ofProcess, hlayers, hproject, huser, hprocess⟩ :=
    exists_layers_of_choices hproject huser hvariables
  rw [hlayers, Except.ok.injEq] at hread
  subst hread
  obtain _ | ⟨hbuiltIn', _ | ⟨hproject', _ | ⟨huser', _ | ⟨hprocess', ⟨⟩⟩⟩⟩⟩ := hvisited
  have hbuiltIn' := says_builtInLayer.reordered hbuiltIn'
  have hproject' := hproject.reordered hproject'
  have huser' := huser.reordered huser'
  have hprocess' := hprocess.reordered hprocess'
  exact ⟨overlaid_stacked hbuiltIn' hproject' huser' hprocess',
    decode_stacked hbuiltIn' hproject' huser' hprocess'⟩

/-- So there is one outcome. -/
theorem eq_some_of_mayLoad {result : Option Settings}
    (hload : MayLoad surroundings path result) :
    result = some (process.layered user project) := by
  cases hload with
  | refused hrefused =>
    obtain ⟨_, _, _, hlayers, -⟩ := exists_layers_of_choices hproject huser hvariables
    rw [hlayers] at hrefused
    cases hrefused
  | decoded hread hvisited =>
    rw [(overlaid_visited hproject huser hvariables hread hvisited).2]
    rfl

end Sources

end TestCoverage.Settings
