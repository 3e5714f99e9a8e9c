/-
  TestCoverage.Proofs.Artifact.Acceptance

  Which messages are artifacts, and what they say, in terms of the grammar.
-/
import TestCoverage.Artifact
import TestCoverage.Proofs.Json.Members

namespace TestCoverage.Artifact

open Json

/-! ## What values mean -/

/-- The profile that a value stands for. -/
def profile? : Value → Option Profile
  | .object members =>
    if Named members then (member? "test" boolean? false members).map Profile.mk else none
  | .list [] => some ⟨false⟩
  | .list [test] => (boolean? test).map Profile.mk
  | _ => none

/-- The path that a string stands for. -/
def path? (value : Value) : Option Path :=
  (text? value).map Utf8.encode

/-- The artifact that a value stands for. -/
def artifact? : Value → Option Artifact
  | .object members =>
    if Named members then do
      let profile ← member? "profile" (option? profile?) none members
      let files ← member? "filenames" (list? path?) [] members
      return ⟨profile, files⟩
    else none
  | .list [] => some ⟨none, []⟩
  | .list [profile] => (option? profile? profile).map fun profile => ⟨profile, []⟩
  | .list [profile, files] => do
    let profile ← option? profile? profile
    let files ← list? path? files
    return ⟨profile, files⟩
  | _ => none

/-! ## The readers -/

theorem reads_readPath : Reads readPath path? :=
  (reads_readText "path string").map Utf8.encode

/-- The fields of a profile. -/
def profileFields : List (FieldMeaning Profile) :=
  [.of "test" boolean? fun test profile => { profile with test }]

theorem record?_profile : record? profileFields {} = profile? := by
  have hindependent : Independent profileFields := List.pairwise_singleton ..
  funext value
  cases value with
  | object members =>
    rw [record?_object hindependent, profileFields, assignAll?,
      FieldMeaning.of_assign? "test" boolean? _ (show Profile.mk false = {} from rfl), profile?]
    simp only [assignAll?, Option.bind_fun_some]
  | list elements =>
    rcases elements with _ | ⟨test, _ | ⟨second, others⟩⟩
    · rfl
    · simp [record?, profileFields, putElements?, FieldMeaning.of, profile?]
    · simp [record?, profileFields, putElements?, profile?]
  | _ => rfl

theorem reads_profile : Reads profileShape.read profile? := by
  rw [← record?_profile]
  exact Shape.reads (.cons (Field.of_means reads_readBool ..) .nil)

/-- The fields of an artifact. -/
def artifactFields : List (FieldMeaning Artifact) :=
  [.of "profile" (option? profile?) fun profile artifact => { artifact with profile },
    .of "filenames" (list? path?) fun files artifact => { artifact with files }]

theorem independent_artifactFields : Independent artifactFields := by
  refine List.pairwise_pair.mpr ⟨by decide, ?_⟩
  exact FieldMeaning.of_commutes fun _ _ _ => rfl

theorem record?_artifact : record? artifactFields {} = artifact? := by
  funext value
  cases value with
  | object members =>
    rw [record?_object independent_artifactFields, artifactFields, assignAll?,
      FieldMeaning.of_assign? "profile" (option? profile?) _
        (show Artifact.mk none [] = {} from rfl), artifact?]
    split
    · cases member? "profile" (option? profile?) none members with
      | none => rfl
      | some profile =>
        simp only [Option.map_some, Option.bind_some, assignAll?]
        rw [FieldMeaning.of_assign? "filenames" (list? path?) _
          (show Artifact.mk profile [] = _ from rfl)]
        cases member? "filenames" (list? path?) [] members <;> rfl
    · rfl
  | list elements =>
    rcases elements with _ | ⟨profile, _ | ⟨files, _ | ⟨third, others⟩⟩⟩
    · rfl
    · simp [record?, artifactFields, putElements?, FieldMeaning.of, artifact?]
    · simp only [record?, artifactFields, putElements?, FieldMeaning.of, artifact?]
      cases option? profile? profile <;> cases list? path? files <;> rfl
    · simp [record?, artifactFields, putElements?, artifact?]
  | _ => rfl

theorem reads_artifact : Reads shape.read artifact? := by
  rw [← record?_artifact]
  exact Shape.reads (.cons (Field.of_means (reads_readOption reads_profile) ..)
    (.cons (Field.of_means (reads_readList reads_readPath) ..) .nil))

/-! ## Acceptance -/

/-- A message is an artifact exactly if it is a text of the grammar that stands for one. -/
theorem parse_eq_ok_iff_isDocument (message : List Char) (artifact : Artifact) :
    parse message = .ok artifact ↔
      ∃ value, IsDocument value message ∧ artifact? value = some artifact :=
  readDocument_eq_ok_iff reads_artifact

example :
    parse "\x7b\"x\": [1, \x7b\x7d], \"profile\": \x7b\"test\": true\x7d\x7d".toList =
      .ok ⟨some ⟨true⟩, []⟩ := by decide +kernel
example : parse "[null, [\"\\u0061\"]]".toList = .ok ⟨none, [[0x61]]⟩ := by decide +kernel

end TestCoverage.Artifact
