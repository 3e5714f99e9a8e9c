/-
  TestCoverage.Proofs.Command

  What a child receives from a command that is described step by step, and what can be read from
  the line that displays a command.

  The arguments of the steps add up, and of the environments only the last one counts.

  A command can be read back from its line, but for the environment, as long as no quote is in
  its program and its arguments: its words are what stands between the quotes, taken in pairs.
-/
import TestCoverage.Command
import TestCoverage.Proofs.Environment

namespace TestCoverage

namespace Command

/-! ## Commands step by step -/

/-- A step in the description of a command. -/
inductive Step where
  | argument (value : Bytes)
  | arguments (values : List Bytes)
  | environment (origin : Environment.Origin)

namespace Step

/-- The command with one more step. -/
def extend (command : Command) : Step → Command
  | .argument value => command.withArgument value
  | .arguments values => command.withArguments values
  | .environment origin => command.withEnvironment origin.environment

/-- The arguments that a step adds. -/
def added : Step → List Bytes
  | .argument value => [value]
  | .arguments values => values
  | .environment _ => []

/-- How the environment of a step is made. -/
def origin? : Step → Option Environment.Origin
  | .argument _ | .arguments _ => none
  | .environment origin => some origin

end Step

/-- The command that is described by steps. -/
def described (program : String) (steps : List Step) : Command :=
  steps.foldl Step.extend { program }

/-- The last of the environments that the steps set; without one, nothing is set. -/
def lastOrigin (steps : List Step) : Environment.Origin :=
  (steps.filterMap Step.origin?).getLast?.getD .nothing

theorem filterMap_origin?_cons (origin : Environment.Origin) (steps : List Step) :
    (.environment origin :: steps).filterMap Step.origin? =
      origin :: steps.filterMap Step.origin? := rfl

/-- Steps add up their arguments, and the last environment stands in place of all others. -/
theorem foldl_extend (command : Command) (steps : List Step) :
    steps.foldl Step.extend command = {
      program := command.program
      arguments := command.arguments ++ steps.flatMap Step.added
      environment := ((steps.filterMap Step.origin?).getLast?.map (·.environment)).getD
        command.environment } := by
  -- the command is that of the steps before, so the induction is for all commands
  induction steps generalizing command with
  | nil => simp
  | cons step steps ih =>
    rw [List.foldl_cons, ih, List.flatMap_cons]
    cases step with
    | argument value =>
      simp [Step.extend, withArgument, Step.added, Step.origin?]
    | arguments values =>
      simp [Step.extend, withArguments, Step.added, Step.origin?]
    | environment origin =>
      have hlast : (((Step.environment origin :: steps).filterMap Step.origin?).getLast?.map
            (·.environment)).getD command.environment =
          ((steps.filterMap Step.origin?).getLast?.map (·.environment)).getD
            origin.environment := by
        rw [filterMap_origin?_cons, List.getLast?_cons]
        cases (steps.filterMap Step.origin?).getLast? <;> rfl
      rw [hlast]
      rfl

theorem described_eq (program : String) (steps : List Step) :
    described program steps = {
      program
      arguments := steps.flatMap Step.added
      environment := (lastOrigin steps).environment } := by
  rw [described, foldl_extend, lastOrigin]
  cases (steps.filterMap Step.origin?).getLast? <;> rfl

/-- An environment that is set before another one is of no account. -/
theorem described_append_environment (program : String) (before : List Step)
    (origin : Environment.Origin) {behind : List Step} {later : Environment.Origin}
    (h : .environment later ∈ behind) :
    described program (before ++ .environment origin :: behind) =
      described program (before ++ behind) := by
  have hbehind : behind.filterMap Step.origin? ≠ [] :=
    List.ne_nil_of_mem (List.mem_filterMap.mpr ⟨_, h, rfl⟩)
  have hlast : lastOrigin (before ++ .environment origin :: behind) =
      lastOrigin (before ++ behind) := by
    rw [lastOrigin, lastOrigin, List.filterMap_append, List.filterMap_append,
      filterMap_origin?_cons, List.getLast?_append, List.getLast?_append, List.getLast?_cons,
      List.getLast?_eq_some_getLast hbehind]
    rfl
  simp only [described_eq, hlast, List.flatMap_append, List.flatMap_cons, Step.added,
    List.nil_append]

/-! ## What a child receives -/

/-- A child is started with the program of the command, and with the arguments of all the steps in
    their order.  Its variables have the values of the environment that was set last, or else
    those that it inherits, also where their names are no text; so an instrumented environment
    gives values to two variables and leaves all others as they are.  An environment that was set
    earlier leaves no trace. -/
theorem child_receives (program : String) (steps : List Step) (inherited : VariableBlock) :
    let command := described program steps
    let child := command.environment.applyTo inherited
    let environment := (lastOrigin steps).environment
    command.program = program ∧
    command.arguments = steps.flatMap Step.added ∧
    (∀ name, child.get? (Utf8.ofString name) =
      (environment.get? name).or (inherited.get? (Utf8.ofString name))) ∧
    (∀ name, (∀ text, Utf8.ofString text ≠ name) → child.get? name = inherited.get? name) ∧
    (lastOrigin steps = .nothing → child = inherited) ∧
    (∀ flags sysroot prior, lastOrigin steps = .instrumented flags sysroot prior → ∀ name,
      child.get? name =
        if name = Utf8.ofString "RUSTFLAGS" then some (Utf8.ofString flags)
        else if name = Utf8.ofString "LD_LIBRARY_PATH" then
          some (prior.getD [] ++ Utf8.ofString ":" ++ sysroot.join (Utf8.ofString "lib"))
        else inherited.get? name) ∧
    ∀ before origin behind later, .environment later ∈ behind →
      described program (before ++ .environment origin :: behind) =
        described program (before ++ behind) := by
  intro command child environment
  have hcommand : command = ⟨program, steps.flatMap Step.added, environment⟩ :=
    described_eq program steps
  have hchild : child = environment.applyTo inherited := by
    change command.environment.applyTo inherited = _
    rw [hcommand]
  have hnames : environment.names.Nodup := (lastOrigin steps).nodup_names
  have hvalue (name : String) : child.get? (Utf8.ofString name) =
      (environment.get? name).or (inherited.get? (Utf8.ofString name)) := by
    rw [hchild, Environment.get?_applyTo hnames]
  have hother (name : Bytes) (hname : ∀ text, Utf8.ofString text ≠ name) :
      child.get? name = inherited.get? name := by
    rw [hchild, Environment.get?_applyTo_of_not_text hnames inherited hname]
  refine ⟨by rw [hcommand], by rw [hcommand], hvalue, hother, ?_, ?_, ?_⟩
  · intro hlast
    have hnothing : environment = {} := congrArg Environment.Origin.environment hlast
    rw [hchild, hnothing]
    rfl
  · intro flags sysroot prior hlast name
    have hinstrumented : environment = .instrumented flags sysroot prior :=
      congrArg Environment.Origin.environment hlast
    by_cases htext : ∃ text, Utf8.ofString text = name
    · obtain ⟨text, rfl⟩ := htext
      rw [hvalue, hinstrumented, Environment.get?_instrumented]
      simp only [Utf8.ofString_injective.eq_iff]
      by_cases hflags : text = "RUSTFLAGS"
      · simp [hflags]
      · by_cases hpath : text = "LD_LIBRARY_PATH"
        · simp [hpath]
        · simp [hflags, hpath]
    · have hne (text : String) : Utf8.ofString text ≠ name := fun heq => htext ⟨text, heq⟩
      rw [hother name hne, if_neg (hne _).symm, if_neg (hne _).symm]
  · intro before origin behind later hlater
    exact described_append_environment program before origin hlater

/-- The second environment takes the place of the first one as a whole, also where it sets nothing,
    and its values that of inherited ones. -/
theorem child_receives_second_environment :
    let first : Environment.Origin := .instrumented "-g" (Utf8.ofString "/a") (some [0x78])
    let second : Environment.Origin := .instrumented "-O" (Utf8.ofString "/r") none
    let before : List Step := [.argument [0xFF]]
    let behind : List Step := [.arguments [[], [0x62]], .environment second]
    let inherited : VariableBlock :=
      [(Utf8.ofString "LD_LIBRARY_PATH", [0xFE]), ([0xFF], [0xFD])]
    let command := described "p" (before ++ .environment first :: behind)
    let child := command.environment.applyTo inherited
    command.arguments = [[0xFF], [], [0x62]] ∧ command = described "p" (before ++ behind) ∧
      (child.get? (Utf8.ofString "LD_LIBRARY_PATH") = some (Utf8.ofString ":/r/lib") ∧
        child.get? [0xFF] = some [0xFD] ∧ child.get? (Utf8.ofString "PATH") = none) ∧
      (described "p" [.environment first, .environment .nothing]).environment.applyTo inherited =
        inherited := by
  intro first second before behind inherited command child
  obtain ⟨-, harguments, -, hother, -, hvalue, hearlier⟩ :=
    child_receives "p" (before ++ .environment first :: behind) inherited
  have hlater : .environment second ∈ behind := by simp [behind]
  have hlast : lastOrigin (before ++ .environment first :: behind) = second := rfl
  have hnotText (text : String) : Utf8.ofString text ≠ [0xFF] := fun heq =>
    absurd (Utf8.wellFormed_iff.mpr ⟨_, heq⟩) (by decide)
  refine ⟨harguments, hearlier before first behind second hlater, ⟨?_, ?_, ?_⟩, ?_⟩
  · simp only [command, child, hvalue _ _ _ hlast]
    decide
  · exact hother [0xFF] hnotText
  · simp only [command, child, hvalue _ _ _ hlast]
    decide
  · obtain ⟨-, -, -, -, hnothing, -⟩ :=
      child_receives "p" [.environment first, .environment .nothing] inherited
    exact hnothing rfl

/-! ## Reading between quotes -/

/-- The texts between quotes, where `token` is what has been read behind a quote that is still
    open. -/
def quotedFrom (token : Option (List Char)) : List Char → List (List Char)
  | [] => []
  | c :: rest =>
    match token with
    | none => quotedFrom (if c = '"' then some [] else none) rest
    | some token =>
      if c = '"' then token :: quotedFrom none rest else quotedFrom (some (token ++ [c])) rest

/-- The texts between each quote and the next one, taken in pairs from the first quote on. -/
def quoted (text : List Char) : List (List Char) :=
  quotedFrom none text

/-- A token without quotes is read up to the quote behind it. -/
theorem quotedFrom_append {token : List Char} (h : '"' ∉ token) (before rest : List Char) :
    quotedFrom (some before) (token ++ '"' :: rest) =
      (before ++ token) :: quotedFrom none rest := by
  induction token generalizing before with
  | nil => simp [quotedFrom]
  | cons c token ih =>
    obtain ⟨hc, htoken⟩ : c ≠ '"' ∧ '"' ∉ token := by simpa [eq_comm] using h
    rw [List.cons_append, quotedFrom, if_neg hc, ih htoken, List.append_assoc,
      List.singleton_append]

/-- A token in quotes is read, and what stands behind it is read like a new text. -/
theorem quoted_token {token : List Char} (h : '"' ∉ token) (rest : List Char) :
    quoted ('"' :: token ++ ['"'] ++ rest) = token :: quoted rest := by
  rw [List.append_assoc, List.singleton_append, List.cons_append, quoted, quotedFrom, if_pos rfl,
    quotedFrom_append h, List.nil_append, quoted]

theorem quoted_space (rest : List Char) : quoted (' ' :: rest) = quoted rest := by
  rw [quoted, quotedFrom, if_neg (by decide), quoted]

/-- The displayed tokens are read back one by one. -/
theorem quoted_renderTokens {tokens : List (List Char)} (h : ∀ token ∈ tokens, '"' ∉ token) :
    quoted (renderTokens tokens) = tokens := by
  induction tokens with
  | nil => rfl
  | cons token tokens ih =>
    obtain ⟨htoken, htokens⟩ := List.forall_mem_cons.mp h
    cases tokens with
    | nil =>
      have hrender : renderTokens [token] = '"' :: token ++ ['"'] ++ [] := by
        simp [renderTokens]
      rw [hrender, quoted_token htoken]
      rfl
    | cons next tokens =>
      -- a space lies between a token and the next one
      have hrender : renderTokens (token :: next :: tokens) =
          '"' :: token ++ ['"'] ++ ' ' :: renderTokens (next :: tokens) := by
        simp [renderTokens, List.intercalate_cons_cons]
      rw [hrender, quoted_token htoken, quoted_space, ih htokens]

/-! ## Words -/

/-- The program and the arguments. -/
def words (command : Command) : List Bytes :=
  Utf8.ofString command.program :: command.arguments

/-- The byte of a quote. -/
def quote : UInt8 := 0x22

/-- All words are text without quotes. -/
def IsPlain (command : Command) : Prop :=
  ∀ word ∈ command.words, Utf8.WellFormed word ∧ quote ∉ word

instance (command : Command) : Decidable command.IsPlain :=
  inferInstanceAs (Decidable (∀ word ∈ command.words, _ ∧ _))

theorem tokens_eq (command : Command) :
    command.tokens = command.words.map Utf8.decodeLossy := by
  rw [tokens, words, List.map_cons, Utf8.ofString, Utf8.decodeLossy_encode]

/-- The tokens of a plain command are its words, and have no quotes either. -/
theorem IsPlain.tokens {command : Command} (h : command.IsPlain) :
    command.tokens.map Utf8.encode = command.words ∧ ∀ token ∈ command.tokens, '"' ∉ token := by
  rw [tokens_eq, List.map_map, List.forall_mem_map]
  have hword : ∀ word ∈ command.words,
      Utf8.encode (Utf8.decodeLossy word) = word ∧ '"' ∉ Utf8.decodeLossy word := by
    intro word hword
    obtain ⟨hwell, hquote⟩ := h word hword
    obtain ⟨text, rfl⟩ := hwell.exists_encode
    have hmem : quote ∈ Utf8.encode text ↔ '"' ∈ text :=
      Utf8.mem_encode_iff (by decide) (by decide)
    rw [Utf8.decodeLossy_encode]
    exact ⟨rfl, fun hmem' => hquote (hmem.mpr hmem')⟩
  refine ⟨?_, fun word hmem => (hword word hmem).2⟩
  exact (List.map_congr_left fun word hmem => (hword word hmem).1).trans (List.map_id _)

/-- The words of a plain command are read between the quotes of its line. -/
theorem IsPlain.quoted_render {command : Command} (h : command.IsPlain) :
    (quoted command.render.toList).map Utf8.encode = command.words := by
  rw [render, String.toList_ofList, quoted_renderTokens h.tokens.2, h.tokens.1]

theorem eq_of_words_eq {x y : Command} (h : x.words = y.words) :
    x.program = y.program ∧ x.arguments = y.arguments := by
  obtain ⟨hprogram, harguments⟩ := List.cons.inj h
  exact ⟨String.toList_inj.mp (Utf8.encode_injective hprogram), harguments⟩

/-! ## No two commands are displayed alike -/

/-- Commands whose words are text without quotes are displayed alike only if they have the same
    program and the same arguments; the words are what is read between the quotes.  The
    environment is not displayed, whatever the words are. -/
theorem render_unambiguous :
    (∀ x y : Command, x.IsPlain → y.IsPlain → x.render = y.render →
      x.program = y.program ∧ x.arguments = y.arguments) ∧
    (∀ x : Command, x.IsPlain →
      (quoted x.render.toList).map Utf8.encode = Utf8.ofString x.program :: x.arguments) ∧
    ∀ (x : Command) (environment : Environment),
      (x.withEnvironment environment).render = x.render := by
  refine ⟨fun x y hx hy hrender => ?_, fun x hx => hx.quoted_render, fun _ _ => rfl⟩
  apply eq_of_words_eq
  rw [← hx.quoted_render, ← hy.quoted_render, hrender]

/-- A space within a word is told from one between words, and an empty word is not lost. -/
theorem render_unambiguous_spaces :
    let x : Command := { program := "a b", arguments := [[], Utf8.ofString "\\\n"] }
    let y : Command := { program := "a", arguments := [[0x62], [], Utf8.ofString "\\\n"] }
    x.IsPlain ∧ y.IsPlain ∧ x.render ≠ y.render ∧
      (quoted x.render.toList).map Utf8.encode =
        [Utf8.ofString "a b", [], Utf8.ofString "\\\n"] := by
  intro x y
  have hx : x.IsPlain := by decide
  have hy : y.IsPlain := by decide
  refine ⟨hx, hy, fun hrender => ?_, render_unambiguous.2.1 x hx⟩
  have hprogram : x.program = y.program := (render_unambiguous.1 x y hx hy hrender).1
  exact absurd hprogram (by decide)

end Command
end TestCoverage
