/-
  TestCoverage.Proofs.Settings.Variable

  What becomes of the text of a variable that sets a text setting.  The layer of the
  variables takes truth values and numbers for what they are, and the setting then has
  their text: `007` arrives as `7`, `TRUE` as `true`, `1.10` as `1.1`.  Every other text
  arrives unchanged.
-/
import TestCoverage.Proofs.Settings.Loading
import TestCoverage.Proofs.Text.LowerCase

namespace TestCoverage.Settings

/-! ## Texts that are taken for something else -/

/-- The text is a truth value, in any case. -/
def IsTruthWord (text : String) : Prop :=
  Text.lowered text = "true" ∨ Text.lowered text = "false"

instance (text : String) : Decidable (IsTruthWord text) :=
  inferInstanceAs (Decidable (_ ∨ _))

/-- The text reads neither as a truth value nor as a number. -/
structure IsPlain (text : String) : Prop where
  not_true : Text.lowered text ≠ "true"
  not_false : Text.lowered text ≠ "false"
  not_integer : Decimal.integer? text.toList = none
  not_float : Decimal.float? text.toList = none

theorem lowered_eq_iff {text word : String} :
    Text.lowered text = word ↔ Text.lowerCase text.toList = word.toList := by
  rw [Text.lowered, ← String.toList_inj, String.toList_ofList]

namespace IsTruthWord

variable {text : String}

/-- Truth values are written in letters. -/
theorem isAlpha (h : IsTruthWord text) : ∀ c ∈ text.toList, c.isAlpha := by
  rcases h with h | h <;> exact Text.isAlpha_of_lowerCase_eq (by decide) (lowered_eq_iff.mp h)

theorem length (h : IsTruthWord text) : text.toList.length = 4 ∨ text.toList.length = 5 := by
  rw [← List.length_map Text.lowerChar]
  rcases h with h | h
  · exact .inl (by rw [Text.map_lowerChar_of_lowerCase_eq (by decide) (lowered_eq_iff.mp h)]; rfl)
  · exact .inr (by rw [Text.map_lowerChar_of_lowerCase_eq (by decide) (lowered_eq_iff.mp h)]; rfl)

/-- A truth value begins with a letter, so there is no sign before it. -/
theorem exists_cons (h : IsTruthWord text) : ∃ first rest, text.toList = first :: rest ∧
    first.isDigit = false ∧ first ≠ '.' ∧
    Decimal.splitSign text.toList = (false, text.toList) := by
  have halpha := h.isAlpha
  have hlength := h.length
  cases hlist : text.toList with
  | nil => simp [hlist] at hlength
  | cons first rest =>
    have hfirst : first.isAlpha := halpha first (by rw [hlist]; exact List.mem_cons_self)
    refine ⟨first, rest, rfl, Text.isDigit_of_isAlpha hfirst, ?_, ?_⟩
    · rintro rfl
      exact absurd hfirst (by decide)
    · unfold Decimal.splitSign
      split
      · next heq =>
        cases heq
        exact absurd hfirst (by decide)
      · next heq =>
        cases heq
        exact absurd hfirst (by decide)
      · rfl

theorem integer?_eq_none (h : IsTruthWord text) : Decimal.integer? text.toList = none := by
  obtain ⟨first, rest, hlist, hdigit, -, hsign⟩ := h.exists_cons
  rw [Decimal.integer?, hsign]
  simp [hlist, hdigit]

theorem float?_eq_none (h : IsTruthWord text) : Decimal.float? text.toList = none := by
  obtain ⟨first, rest, hlist, hdigit, hpoint, hsign⟩ := h.exists_cons
  -- the names of doubles have three or eight letters
  have hname (word : List Char) (hword : word.length = 3 ∨ word.length = 8) :
      text.toList.map Char.toLower ≠ word := by
    rintro rfl
    rw [List.length_map] at hword
    have hlength := h.length
    omega
  rw [Decimal.float?, hsign]
  simp only [hname ['n', 'a', 'n'] (.inl rfl), hname ['i', 'n', 'f'] (.inl rfl),
    hname ['i', 'n', 'f', 'i', 'n', 'i', 't', 'y'] (.inr rfl), or_self, if_false]
  rw [Decimal.positive?, hlist, List.takeWhile_cons_of_neg (by rw [hdigit]; decide),
    List.dropWhile_cons_of_neg (by rw [hdigit]; decide)]
  split
  · next heq =>
    split at heq
    · next hcons =>
      cases hcons
      exact absurd rfl hpoint
    · cases heq
      rfl

end IsTruthWord

/-! ## What arrives -/

/-- The text that a variable gives to a text setting: a truth value in lower case, a number
    without an exponent and with no more digits than it needs, all else unchanged. -/
def arriving (text : String) : String :=
  let word := Text.lowered text
  if word = "true" ∨ word = "false" then word
  else match Decimal.integer? text.toList with
    | some value => toString value
    | none => match Decimal.float? text.toList with
      | some value => String.ofList value.plain
      | none => text

theorem arriving_of_isTruthWord {text : String} (h : IsTruthWord text) :
    arriving text = Text.lowered text :=
  if_pos h

theorem arriving_of_integer {text : String} {value : Int}
    (h : Decimal.integer? text.toList = some value) : arriving text = toString value := by
  have hword : ¬ IsTruthWord text := by
    intro hword
    rw [hword.integer?_eq_none] at h
    cases h
  rw [IsTruthWord] at hword
  simp only [arriving, if_neg hword, h]

theorem arriving_of_float {text : String} {value : Binary64}
    (hinteger : Decimal.integer? text.toList = none)
    (h : Decimal.float? text.toList = some value) :
    arriving text = String.ofList value.plain := by
  have hword : ¬ IsTruthWord text := by
    intro hword
    rw [hword.float?_eq_none] at h
    cases h
  rw [IsTruthWord] at hword
  simp only [arriving, if_neg hword, hinteger, h]

theorem arriving_of_isPlain {text : String} (h : IsPlain text) : arriving text = text := by
  simp only [arriving, h.not_true, h.not_false, or_self, if_false, h.not_integer, h.not_float]

example : arriving "TRUE" = "true" := by decide +kernel
example : arriving "-1.10e2" = "-110" := by decide +kernel
example : arriving "-C opt-level=1" = "-C opt-level=1" := by decide +kernel

theorem decodeText_scalarOf (key : String) (origin : Option String) (text : String) :
    decodeText key (.scalar origin (Layer.scalarOf text.toList)) = .ok (arriving text) := by
  simp only [Layer.scalarOf, arriving, ← lowered_eq_iff]
  by_cases htrue : Text.lowered text = "true"
  · simp [htrue, decodeText]
  by_cases hfalse : Text.lowered text = "false"
  · simp [hfalse, decodeText]
  simp only [htrue, hfalse, or_self, if_false]
  cases Decimal.integer? text.toList with
  | some value => rfl
  | none =>
    cases Decimal.float? text.toList with
    | some value => rfl
    | none => simp [decodeText]

/-! ## Loading -/

/-- A text setting that a variable sets has the arriving text, whatever the files say. -/
theorem load_set_variable (setting : TextSetting) (text : String)
    {surroundings : Surroundings} {project : Option Path} {before : Settings}
    (hunset : Layer.Unset surroundings.bindings)
    (hbefore : load surroundings project = .ok before) :
    ∃ settings,
      load { surroundings with
        bindings := surroundings.bindings.set (Utf8.ofString setting.variableName)
          (Utf8.ofString text) }
        project = .ok settings ∧
      setting.get settings = arriving text := by
  -- without the variable the files alone can be decoded; it is one scalar put over them
  obtain ⟨entries, values, hfiles, hvalues, hdecode⟩ := load_eq_ok_iff.mp hbefore
  have hbytes := texts_eq_ok_iff.mp hvalues
  rw [← hbytes, Layer.unset_iff] at hunset
  rw [Layer.ofVariables_eq_nil hunset] at hdecode
  have hvalue : (Setting.text setting).decode
      (.scalar (some "the environment") (Layer.scalarOf text.toList)) = .ok (arriving text) :=
    decodeText_scalarOf _ _ text
  obtain ⟨settings, hsettings, hget⟩ := Setting.exists_decode_put hdecode hvalue
  have hlayer : Layer.ofVariables (values.set setting.variableName text.toList) =
      [((Setting.text setting).key,
        .scalar (some "the environment") (Layer.scalarOf text.toList))] :=
    Layer.ofVariables_set hunset (Setting.keyOf?_variableName (.text setting)) text.toList
  refine ⟨settings, load_eq_ok_iff.mpr
    ⟨entries, values.set setting.variableName text.toList, ?_, ?_, ?_⟩, hget⟩
  · rw [← hfiles]
    exact fileItems_set (Utf8.ofString text) (Setting.variableName_ne_directory (.text setting))
      (Setting.variableName_ne_home (.text setting)) project
  · rw [← hbytes]
    exact texts_eq_ok_iff.mpr (set_map_bytesOf _ _ _).symm
  · rw [hlayer, Layer.onto_cons, Layer.onto_nil, Setting.ofKey_key]
    exact hsettings

/-- With a project's file that sets the same setting. -/
theorem load_set_variable_leading_zeros :
    ∃ settings,
      load (alone (Utf8.ofString "coverage.output_subdir = 'report'\ntools.kcov = '/opt/kcov'\n")
          [("HOME", Utf8.ofString "/home"),
            ("KCOV_RUNNER__COVERAGE__OUTPUT_SUBDIR", Utf8.ofString "007")])
        (some (Utf8.ofString "/work")) = .ok settings ∧
      settings.coverage.outputSubdir = "7" := by
  have hinteger : Decimal.integer? "007".toList = some 7 := by decide +kernel
  have harriving : arriving "007" = "7" := arriving_of_integer hinteger
  have hbefore :
      load (alone (Utf8.ofString "coverage.output_subdir = 'report'\ntools.kcov = '/opt/kcov'\n")
          [("HOME", Utf8.ofString "/home")])
        (some (Utf8.ofString "/work")) =
      .ok { tools := { kcov := "/opt/kcov" }, coverage := { outputSubdir := "report" } } := by
    rw [load, layers, ofDocument_builtIn]
    decide +kernel
  obtain ⟨settings, hload, hget⟩ :=
    load_set_variable .outputSubdir "007" (by decide +kernel) hbefore
  exact ⟨settings, hload, hget.trans harriving⟩

/-- Leading zeros are lost, so the text of a variable does not always arrive unchanged. -/
theorem not_forall_load_set_variable_unchanged :
    ¬ ∀ (setting : TextSetting) (text : String) (surroundings : Surroundings)
      (project : Option Path) (before : Settings), '\x00' ∉ text.toList →
      Layer.Unset surroundings.bindings → load surroundings project = .ok before →
      ∃ settings,
        load { surroundings with
          bindings := surroundings.bindings.set (Utf8.ofString setting.variableName)
            (Utf8.ofString text) }
          project = .ok settings ∧
        setting.get settings = text := by
  intro h
  have hnothing : load (alone [] []) none = .ok {} := by
    rw [load, layers, ofDocument_builtIn]
    decide +kernel
  obtain ⟨settings, hload, hget⟩ :=
    h .outputSubdir "007" (alone [] []) none {} (by decide) (by decide +kernel) hnothing
  have hseven : load { alone [] [] with
        bindings := Entries.set [] (Utf8.ofString TextSetting.outputSubdir.variableName)
          (Utf8.ofString "007") } none =
      .ok { coverage := { outputSubdir := "7" } } := by
    rw [load, layers, ofDocument_builtIn]
    decide +kernel
  cases hseven.symm.trans hload
  exact absurd hget (by decide)

end TestCoverage.Settings
