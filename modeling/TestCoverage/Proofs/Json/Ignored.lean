/-
  TestCoverage.Proofs.Json.Ignored

  Passing over a value accepts what the grammar has, to any depth.

  The open containers are kept in a list, so a run of steps does not follow the value's
  structure.  One way, what is still expected of the text is read off the list, and a step
  backwards keeps that.  The other way, the steps that pass over a value leave the list as it
  was.
-/
import TestCoverage.Proofs.Json.Steps

namespace TestCoverage.Json

/-! ## What is passed over is a value -/

/-- The text closes the open containers, the innermost first, and goes on with `behind`. -/
def Closes : List Container → List Char → List Char → Prop
  | [], text, behind => text = behind
  | .list :: outer, text, behind =>
    ∃ elements written rest, Tail IsValue ']' elements written ∧ text = written ++ rest ∧
      Closes outer rest behind
  | .object :: outer, text, behind =>
    ∃ members written rest, Tail IsMember '\x7d' members written ∧ text = written ++ rest ∧
      Closes outer rest behind

/-- The text begins with what is expected, closes the open containers, and goes on with
    `behind`. -/
def Finishes : Expecting → List Container → List Char → List Char → Prop
  | .value, opened, text, behind =>
    ∃ space value written rest, Spaces space ∧ IsValue value written ∧
      text = space ++ (written ++ rest) ∧ Closes opened rest behind
  | .key, opened, text, behind =>
    ∃ space member written rest, Spaces space ∧ IsMember member written ∧
      text = space ++ (written ++ rest) ∧ Closes opened rest behind
  | .separator, opened, text, behind => Closes opened text behind

/-- Behind a comma stands one more item. -/
theorem closes_of_comma {container : Container} {outer : List Container}
    {space rest behind : List Char} (hspace : Spaces space)
    (h : Finishes container.inside (container :: outer) rest behind) :
    Closes (container :: outer) (space ++ ',' :: rest) behind := by
  cases container with
  | list =>
    -- The value behind the comma and what follows it are the rest of the list.
    obtain ⟨space', value, written, _, hspace', hvalue, rfl, values, tail, rest, htail, rfl,
      hcloses⟩ := h
    exact ⟨_, _, rest, .item hspace hspace' hvalue htail, by simp, hcloses⟩
  | object =>
    obtain ⟨space', member, written, _, hspace', hmember, rfl, members, tail, rest, htail, rfl,
      hcloses⟩ := h
    exact ⟨_, _, rest, .item hspace hspace' hmember htail, by simp, hcloses⟩

theorem closes_of_leave {container : Container} {outer : List Container}
    {space rest behind : List Char} (hspace : Spaces space) (h : Closes outer rest behind) :
    Closes (container :: outer) (space ++ container.closing :: rest) behind := by
  cases container with
  | list => exact ⟨[], _, rest, .close hspace, by simp [Container.closing], h⟩
  | object => exact ⟨[], _, rest, .close hspace, by simp [Container.closing], h⟩

theorem isValue_of_empty (container : Container) {space : List Char} (hspace : Spaces space) :
    ∃ value, IsValue value (container.opening :: (space ++ [container.closing])) := by
  cases container with
  | list => exact ⟨.list [], .list (.empty hspace)⟩
  | object => exact ⟨.object [], .object (.empty hspace)⟩

/-- Behind an opening bracket stands the first item of a value. -/
theorem finishes_of_enter {container : Container} {opened : List Container}
    {space space' rest behind : List Char} (hspace : Spaces space) (hspace' : Spaces space')
    (h : Finishes container.inside (container :: opened) rest behind) :
    Finishes .value opened (space ++ container.opening :: (space' ++ rest)) behind := by
  cases container with
  | list =>
    obtain ⟨space'', value, written, _, hspace'', hvalue, rfl, values, tail, rest, htail, rfl,
      hcloses⟩ := h
    -- White space behind the bracket was skipped with the step, the rest before the item.
    exact ⟨space, _, _, rest, hspace,
      .list (.items (hspace'.append hspace'') hvalue htail),
      by simp [Container.opening], hcloses⟩
  | object =>
    obtain ⟨space'', member, written, _, hspace'', hmember, rfl, members, tail, rest, htail,
      rfl, hcloses⟩ := h
    exact ⟨space, _, _, rest, hspace,
      .object (.items (hspace'.append hspace'') hmember htail),
      by simp [Container.opening], hcloses⟩

/-- A step backwards keeps what is expected of the text. -/
theorem Step.finishes {expecting expecting' : Expecting} {opened opened' : List Container}
    {text rest behind : List Char} (hstep : Step expecting opened text expecting' opened' rest)
    (h : Finishes expecting' opened' rest behind) : Finishes expecting opened text behind := by
  cases hstep with
  | scalar hspace hvalue => exact ⟨_, _, _, _, hspace, hvalue, rfl, h⟩
  | empty container hspace hspace' =>
    obtain ⟨value, hvalue⟩ := isValue_of_empty container hspace'
    exact ⟨_, value, _, _, hspace, hvalue, by simp, h⟩
  | enter container hspace hspace' => exact finishes_of_enter hspace hspace' h
  | key hspace hname hspace' =>
    -- The name with the value that is expected behind it is a member.
    obtain ⟨space'', value, written, rest, hspace'', hvalue, rfl, hcloses⟩ := h
    exact ⟨_, _, _, rest, hspace, .colon hname hspace' hspace'' hvalue, by simp, hcloses⟩
  | comma hspace => exact closes_of_comma hspace h
  | leave hspace => exact closes_of_leave hspace h

theorem skipSteps_sound {bound : Nat} {expecting : Expecting} {opened : List Container}
    {text rest : List Char} (hgoes : ¬ (expecting = .separator ∧ opened = []))
    (h : skipSteps bound expecting opened text = .ok rest) :
    Finishes expecting opened text rest := by
  induction bound generalizing expecting opened text with
  | zero => cases h
  | succ bound ih =>
    rw [skipSteps] at h
    split at h
    · cases h
    · next hstep =>
      cases h
      exact (step_of_skipStep hgoes hstep).finishes rfl
    · next hgoes' hstep =>
      exact (step_of_skipStep hgoes hstep).finishes (ih (fun ⟨h, h'⟩ => hgoes' h h') h)

theorem skipValue_sound {text rest : List Char} (h : skipValue text = .ok rest) :
    ∃ space value written, Spaces space ∧ IsValue value written ∧
      text = space ++ (written ++ rest) := by
  have hfinishes : Finishes .value [] text rest := skipSteps_sound (by simp) h
  obtain ⟨space, value, written, _, hspace, hvalue, rfl, rfl⟩ := hfinishes
  exact ⟨space, value, written, hspace, hvalue, rfl⟩

/-! ## A value is passed over -/

/-- So many steps lead from the one state to the other. -/
inductive Runs : Nat → Expecting × List Container × List Char →
    Expecting × List Container × List Char → Prop where
  | none {state : Expecting × List Container × List Char} : Runs 0 state state
  | step {expecting : Expecting} {opened : List Container} {text : List Char}
      {state state' : Expecting × List Container × List Char} {count : Nat}
      (hstep : skipStep expecting opened text = .ok state) (hruns : Runs count state state') :
      Runs (count + 1) (expecting, opened, text) state'

theorem Runs.one {expecting : Expecting} {opened : List Container} {text : List Char}
    {state : Expecting × List Container × List Char}
    (h : skipStep expecting opened text = .ok state) : Runs 1 (expecting, opened, text) state :=
  .step h .none

theorem Runs.trans {m n : Nat} {a b c : Expecting × List Container × List Char}
    (hab : Runs m a b) (hbc : Runs n b c) : Runs (m + n) a c := by
  induction hab with
  | none => rwa [Nat.zero_add]
  | step hstep _ ih =>
    rw [Nat.succ_add_eq_add_succ]
    exact .step hstep (ih hbc)

/-- Once nothing is open, steps change nothing. -/
theorem Runs.eq_of_ended {count : Nat} {text : List Char}
    {state : Expecting × List Container × List Char}
    (h : Runs count (.separator, [], text) state) : state = (.separator, [], text) := by
  induction count with
  | zero =>
    cases h
    rfl
  | succ count ih =>
    cases h with
    | step hstep hruns =>
      cases hstep
      exact ih hruns

/-- Enough steps find the end of the value. -/
theorem skipSteps_of_runs {count bound : Nat} {expecting : Expecting}
    {opened : List Container} {text rest : List Char}
    (h : Runs count (expecting, opened, text) (.separator, [], rest)) (hbound : count < bound) :
    skipSteps bound expecting opened text = .ok rest := by
  induction count generalizing bound expecting opened text with
  | zero =>
    cases h
    obtain ⟨bound, rfl⟩ := Nat.exists_eq_succ_of_ne_zero (Nat.ne_zero_of_lt hbound)
    rfl
  | succ count ih =>
    obtain ⟨bound, rfl⟩ := Nat.exists_eq_succ_of_ne_zero (Nat.ne_zero_of_lt hbound)
    cases h with
    | step hstep hruns =>
      rw [skipSteps, hstep]
      split
      · next heq => cases heq
      · next heq =>
        -- The value has ended early; the steps that are left do nothing.
        cases heq
        cases hruns.eq_of_ended
        rfl
      · next heq =>
        cases heq
        exact ih hruns (by omega)

/-- What is written as expected is passed over, by no more steps than it has characters, and
    the open containers are left as they were. -/
def PassedOver (expecting : Expecting) (written : List Char) : Prop :=
  ∀ opened space rest, Spaces space → Stops rest → ∃ count ≤ written.length,
    Runs count (expecting, opened, space ++ (written ++ rest)) (.separator, opened, rest)

/-- White space and what stands between items are no part of a number. -/
theorem stops_of_spaces {space : List Char} (hspace : Spaces space) {c : Char}
    (hc : ¬ c.isDigit ∧ c ≠ '.' ∧ c ≠ 'e' ∧ c ≠ 'E') (rest : List Char) :
    Stops (space ++ c :: rest) := by
  intro d hd
  cases space with
  | nil =>
    cases hd
    exact hc
  | cons blank space =>
    cases hd
    rcases hspace d (List.mem_cons_self ..) with rfl | rfl | rfl | rfl <;> decide

theorem passedOver_of_isScalar {value : Value} {written : List Char}
    (hvalue : IsValue value written) (hscalar : value.IsScalar) :
    PassedOver .value written := by
  intro opened space rest hspace hrest
  exact ⟨1, hvalue.length_pos, .one (skipStep_scalar opened hspace hvalue hscalar hrest)⟩

section
variable {α : Type} {Item : α → List Char → Prop} (container : Container)

theorem Tail.stops {xs : List α} {written : List Char}
    (h : Tail Item container.closing xs written) (rest : List Char) :
    Stops (written ++ rest) := by
  cases h with
  | close hspace =>
    rw [List.append_assoc]
    refine stops_of_spaces hspace ?_ _
    cases container <;> decide
  | item hspace =>
    rw [List.append_assoc]
    exact stops_of_spaces hspace (by decide) _

variable {bound : Nat}
  (hitem : ∀ x written, written.length < bound → Item x written →
    PassedOver container.inside written)
include hitem

theorem runs_tail {xs : List α} {written : List Char}
    (h : Tail Item container.closing xs written) (hbound : written.length < bound)
    (opened : List Container) (rest : List Char) :
    ∃ count ≤ written.length,
      Runs count (.separator, container :: opened, written ++ rest)
        (.separator, opened, rest) := by
  induction h with
  | @close space hspace =>
    refine ⟨1, by simp, ?_⟩
    rw [List.append_assoc]
    exact .one (skipStep_leave opened hspace container rest)
  | @item space space' written tail x xs hspace hspace' hx htail ih =>
    simp only [List.length_append, List.length_cons] at hbound
    obtain ⟨m, hm, hitemRuns⟩ := hitem x written (by omega) hx (container :: opened) space'
      (tail ++ rest) hspace' (htail.stops container rest)
    obtain ⟨n, hn, htailRuns⟩ := ih (by omega)
    -- The comma, the item, and then what follows the item.
    refine ⟨1 + (m + n), ?_, ?_⟩
    · simp only [List.length_append, List.length_cons]
      omega
    · have hcomma := skipStep_comma opened hspace container
        (space' ++ (written ++ (tail ++ rest)))
      simpa using (Runs.one hcomma).trans (hitemRuns.trans htailRuns)

theorem passedOver_of_body
    (hfirst : ∀ x written, Item x written →
      ∃ c rest, written = c :: rest ∧ ¬ isSpace c ∧ c ≠ container.closing)
    {xs : List α} {body : List Char} (h : Body Item container.closing xs body)
    (hbound : body.length < bound) : PassedOver .value (container.opening :: body) := by
  intro opened space rest hspace hrest
  cases h with
  | @empty space' hspace' =>
    refine ⟨1, by simp, ?_⟩
    have hempty := skipStep_empty opened hspace container hspace' rest
    simpa using Runs.one hempty
  | @items space' written tail x xs hspace' hx htail =>
    simp only [List.length_append] at hbound
    obtain ⟨m, hm, hitemRuns⟩ := hitem x written (by omega) hx (container :: opened) []
      (tail ++ rest) spaces_nil (htail.stops container rest)
    obtain ⟨n, hn, htailRuns⟩ := runs_tail container hitem htail (by omega) opened rest
    -- The bracket, the first item, and then what follows it.
    refine ⟨1 + (m + n), ?_, ?_⟩
    · simp only [List.length_append, List.length_cons]
      omega
    · obtain ⟨c, behind, rfl, hc, hclosing⟩ := hfirst x written hx
      have henter := skipStep_enter opened hspace hspace' hc hclosing
        (behind ++ (tail ++ rest))
      simpa using (Runs.one henter).trans (hitemRuns.trans htailRuns)

end

/-- A member is passed over if values that are shorter are. -/
theorem passedOver_of_isMember {bound : Nat}
    (hvalue : ∀ value written, written.length < bound → IsValue value written →
      PassedOver .value written)
    {member : Member} {written : List Char} (hbound : written.length < bound)
    (h : IsMember member written) : PassedOver .key written := by
  intro opened space rest hspace hrest
  cases h with
  | @colon pieces value name space₁ space₂ written hname hspace₁ hspace₂ hmember =>
    simp only [List.length_cons, List.length_append] at hbound
    obtain ⟨count, hcount, hruns⟩ := hvalue value written (by omega) hmember opened space₂ rest
      hspace₂ hrest
    refine ⟨1 + count, ?_, ?_⟩
    · simp only [List.length_cons, List.length_append]
      omega
    · have hskip : skipKey (space ++ '"' :: (name ++ '"' :: (space₁ ++ ':' ::
          (space₂ ++ (written ++ rest))))) = .ok (space₂ ++ (written ++ rest)) :=
        skipKey_eq_ok_iff.mpr ⟨space, pieces, name, space₁, hspace, hname, hspace₁, rfl⟩
      have hkey : skipStep .key opened (space ++ '"' :: (name ++ '"' :: (space₁ ++ ':' ::
          (space₂ ++ (written ++ rest))))) =
            .ok (.value, opened, space₂ ++ (written ++ rest)) := by
        rw [skipStep, hskip]
        rfl
      simpa using (Runs.one hkey).trans hruns

/-- By induction on the length, as the items of a container are shorter than it is. -/
theorem passedOver_of_isValue (bound : Nat) (value : Value) (written : List Char)
    (hbound : written.length < bound) (h : IsValue value written) :
    PassedOver .value written := by
  induction bound generalizing value written with
  | zero => exact absurd hbound (Nat.not_lt_zero _)
  | succ bound ih =>
    cases h with
    | null => exact passedOver_of_isScalar .null trivial
    | true => exact passedOver_of_isScalar .true trivial
    | false => exact passedOver_of_isScalar .false trivial
    | number hnumber => exact passedOver_of_isScalar (.number hnumber) trivial
    | string hpieces => exact passedOver_of_isScalar (.string hpieces) trivial
    | @list elements body hbody =>
      have hlength : body.length < bound := Nat.lt_of_succ_lt_succ hbound
      refine passedOver_of_body .list ih (fun element written helement => ?_) hbody hlength
      obtain ⟨c, rest, rfl, hc, hclosing, -⟩ := helement.exists_cons
      exact ⟨c, rest, rfl, hc, hclosing⟩
    | @object members body hbody =>
      have hlength : body.length < bound := Nat.lt_of_succ_lt_succ hbound
      refine passedOver_of_body .object
        (fun member written hlength hmember => passedOver_of_isMember ih hlength hmember)
        (fun member written hmember => ?_) hbody hlength
      obtain ⟨rest, rfl⟩ := hmember.exists_cons
      exact ⟨'"', rest, rfl, by decide, by decide⟩

theorem skipValue_complete {space written rest : List Char} {value : Value}
    (hspace : Spaces space) (hvalue : IsValue value written) (hrest : Stops rest) :
    skipValue (space ++ (written ++ rest)) = .ok rest := by
  obtain ⟨count, hcount, hruns⟩ := passedOver_of_isValue _ value written (Nat.lt_succ_self _)
    hvalue [] space rest hspace hrest
  refine skipSteps_of_runs hruns ?_
  simp only [List.length_append]
  omega

end TestCoverage.Json
