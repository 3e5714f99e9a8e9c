/-
  TestCoverage.Proofs.CoverageRun.Stages

  The three questions before any coverage is collected: what a response to each of them
  says, and that the routine which asks makes just that of it.
-/
import TestCoverage.CoverageRun
import TestCoverage.Proofs.Artifact.Stream
import TestCoverage.Proofs.Play
import TestCoverage.Proofs.Workspace

namespace TestCoverage.CoverageRun

open Text (AllBlank)

/-! ## What the responses say -/

/-- The response names the compiler's directory: it is not blank, and the directory is what
    trimming leaves of it. -/
def Sysroot (response : Response) (sysroot : Path) : Prop :=
  ∃ text, response = .output text ∧ ¬ AllBlank text ∧ sysroot = Utf8.encode (Text.trim text)

/-- The response describes a workspace with a target directory, which is not empty. -/
def Target (response : Response) (target : Path) : Prop :=
  ∃ text, response = .output text ∧ Workspace.parse text = .ok ⟨some target⟩ ∧ target ≠ []

/-- The text describes no workspace, or one of which the target directory is not known. -/
def NoTarget (text : List Char) : WorkspaceError → Prop
  | .malformed cause => Workspace.parse text = .error (.malformed cause)
  | .missingTarget => Workspace.parse text = .ok ⟨none⟩
  | .invalidTarget directory => directory = [] ∧ Workspace.parse text = .ok ⟨some []⟩

/-- Every message of the response is read, and the files are those of the test artifacts
    among them. -/
def Built (response : Response) (files : List Path) : Prop :=
  ∃ text artifacts, response = .output text ∧
    List.Forall₂ Artifact.Decodes (Artifact.messageLines text) artifacts ∧
    files = Artifact.testFilesOf artifacts

/-- The error is that of the first message of the text that is not read, and names the line
    that the message is on. -/
def BadMessage (text : List Char) (error : Artifact.LineError) : Prop :=
  ∃ before, Artifact.FirstFault (Text.pieces '\n' text) before error.error ∧
    error.line = before.length + 1

/-! ## Answers that are read -/

/-- What is made of the output of a command, or the failure that the response means. -/
def answered {α : Type} (command : Command) (response : Response)
    (read : List Char → Except Failure α) : Except Failure α :=
  ((response.answer command).mapError .tool).bind read

theorem answered_eq_ok_iff {α : Type} {command : Command} {response : Response}
    {read : List Char → Except Failure α} {value : α} :
    answered command response read = .ok value ↔
      ∃ text, response = .output text ∧ read text = .ok value := by
  cases response <;> simp [answered, Response.answer, Except.bind]

theorem answered_eq_error_iff {α : Type} {command : Command} {response : Response}
    {read : List Char → Except Failure α} {failure : Failure} :
    answered command response read = .error failure ↔
      (∃ error, response.answer command = .error error ∧ failure = .tool error) ∨
        ∃ text, response = .output text ∧ read text = .error failure := by
  cases response <;> simp [answered, Response.answer, Except.bind, eq_comm]

/-- A command of which the output is read without further calls. -/
theorem play_capture_bind {α : Type} {command : Command} {next : List Char → Routine α}
    {read : List Char → Except Failure α}
    (hnext : ∀ text responses, (next text).play responses = ⟨read text, [], responses⟩)
    (responses : List Response) :
    (Routine.capture command >>= next).play responses =
      ⟨answered command (responseAt responses 0) read, [⟨.capture, command⟩],
        responses.drop 1⟩ := by
  rw [Routine.play_bind, Routine.play_capture, answered]
  cases (responseAt responses 0).answer command with
  | error error => rfl
  | ok answer => simp [Except.bind, hnext]

/-! ## The compiler's directory -/

/-- The compiler's directory in the answer to the question for it. -/
def readSysroot (rustc : String) (text : List Char) : Except Failure Path :=
  match Text.trim text with
  | [] => .error (.tool (.noOutput rustc))
  | directory => .ok (Utf8.encode directory)

theorem play_sysroot (rustc : String) (responses : List Response) :
    (Toolchain.sysroot rustc).play responses =
      ⟨answered (Toolchain.sysrootCommand rustc) (responseAt responses 0) (readSysroot rustc),
        [⟨.capture, Toolchain.sysrootCommand rustc⟩], responses.drop 1⟩ := by
  refine play_capture_bind (fun text responses => ?_) responses
  rw [readSysroot]
  cases Text.trim text <;> rfl

theorem readSysroot_eq_ok_iff {rustc : String} {text : List Char} {sysroot : Path} :
    readSysroot rustc text = .ok sysroot ↔
      ¬ AllBlank text ∧ sysroot = Utf8.encode (Text.trim text) := by
  rw [readSysroot, ← Text.trim_eq_nil_iff]
  cases Text.trim text <;> simp [eq_comm]

theorem readSysroot_eq_error_iff {rustc : String} {text : List Char} {failure : Failure} :
    readSysroot rustc text = .error failure ↔
      AllBlank text ∧ failure = .tool (.noOutput rustc) := by
  rw [readSysroot, ← Text.trim_eq_nil_iff]
  cases Text.trim text <;> simp [eq_comm]

theorem sysroot_iff (rustc : String) {response : Response} {sysroot : Path} :
    answered (Toolchain.sysrootCommand rustc) response (readSysroot rustc) = .ok sysroot ↔
      Sysroot response sysroot := by
  simp only [answered_eq_ok_iff, readSysroot_eq_ok_iff, Sysroot]

theorem not_sysroot_of_error {rustc : String} {response : Response} {failure : Failure}
    (h : answered (Toolchain.sysrootCommand rustc) response (readSysroot rustc) =
      .error failure) (sysroot : Path) : ¬ Sysroot response sysroot := by
  intro hsysroot
  rw [(sysroot_iff rustc).mpr hsysroot] at h
  cases h

/-- A response names no second directory. -/
theorem Sysroot.iff_eq {response : Response} {a b : Path} (ha : Sysroot response a) :
    Sysroot response b ↔ b = a := by
  rw [← sysroot_iff "", (sysroot_iff "").mpr ha, Except.ok.injEq, eq_comm]

/-! ## The directory for coverage output -/

/-- Asks for the workspace, and has its directory for coverage output. -/
def findDirectory (cargo sub : String) : Routine Path := do
  let workspace ← Toolchain.workspace cargo
  Routine.ofExcept .workspace (workspace.coverageDirectory sub)

/-- The directory for coverage output in the answer to the question for the workspace. -/
def readDirectory (sub : String) (text : List Char) : Except Failure Path :=
  ((Workspace.parse text).bind (·.coverageDirectory sub)).mapError .workspace

theorem play_findDirectory (cargo sub : String) (responses : List Response) :
    (findDirectory cargo sub).play responses =
      ⟨answered (Toolchain.workspaceCommand cargo) (responseAt responses 0) (readDirectory sub),
        [⟨.capture, Toolchain.workspaceCommand cargo⟩], responses.drop 1⟩ := by
  rw [findDirectory, Toolchain.workspace, bind_assoc]
  refine play_capture_bind (fun text responses => ?_) responses
  rw [Routine.play_bind, Routine.play_ofExcept, readDirectory]
  cases Workspace.parse text <;> rfl

theorem readDirectory_eq_ok_iff {sub : String} {text : List Char} {directory : Path} :
    readDirectory sub text = .ok directory ↔
      ∃ target, Workspace.parse text = .ok ⟨some target⟩ ∧ target ≠ [] ∧
        directory = target.join (Utf8.ofString sub) := by
  cases hparse : Workspace.parse text with
  | error error => simp [readDirectory, hparse, Except.bind]
  | ok workspace =>
    obtain ⟨_ | _ | ⟨byte, rest⟩⟩ := workspace <;>
      simp [readDirectory, hparse, Except.bind, Except.map,
        Workspace.coverageDirectory, Workspace.targetDirectory, eq_comm]

theorem readDirectory_eq_error_iff {sub : String} {text : List Char} {failure : Failure} :
    readDirectory sub text = .error failure ↔
      ∃ error, NoTarget text error ∧ failure = .workspace error := by
  cases hparse : Workspace.parse text with
  | error error =>
    obtain ⟨cause, rfl⟩ := Workspace.parse_eq_error hparse
    simp only [readDirectory, hparse, Except.mapError_error, Except.bind, Except.error.injEq]
    constructor
    · rintro rfl
      exact ⟨.malformed cause, hparse, rfl⟩
    · rintro ⟨_ | _ | _, h, rfl⟩ <;> simp_all [NoTarget]
  | ok workspace =>
    obtain ⟨_ | _ | ⟨byte, rest⟩⟩ := workspace <;>
      simp only [readDirectory, hparse, Except.mapError_error, Except.mapError_ok, Except.bind,
        Except.map, Workspace.coverageDirectory, Workspace.targetDirectory, Except.error.injEq]
    · constructor
      · rintro rfl
        exact ⟨.missingTarget, hparse, rfl⟩
      · rintro ⟨_ | _ | _, h, rfl⟩ <;> simp_all [NoTarget]
    · constructor
      · rintro rfl
        exact ⟨.invalidTarget [], ⟨rfl, hparse⟩, rfl⟩
      · rintro ⟨_ | _ | _, h, rfl⟩ <;> simp_all [NoTarget]
    · constructor
      · rintro ⟨⟩
      · rintro ⟨_ | _ | _, h, rfl⟩ <;> simp_all [NoTarget]

theorem directory_iff (cargo sub : String) {response : Response} {directory : Path} :
    answered (Toolchain.workspaceCommand cargo) response (readDirectory sub) = .ok directory ↔
      ∃ target, Target response target ∧ directory = target.join (Utf8.ofString sub) := by
  simp only [answered_eq_ok_iff, readDirectory_eq_ok_iff, Target]
  constructor
  · rintro ⟨text, hresponse, target, hparse, hne, rfl⟩
    exact ⟨target, ⟨text, hresponse, hparse, hne⟩, rfl⟩
  · rintro ⟨target, ⟨text, hresponse, hparse, hne⟩, rfl⟩
    exact ⟨text, hresponse, target, hparse, hne, rfl⟩

theorem not_target_of_error {cargo sub : String} {response : Response} {failure : Failure}
    (h : answered (Toolchain.workspaceCommand cargo) response (readDirectory sub) =
      .error failure) (target : Path) : ¬ Target response target := by
  intro htarget
  rw [(directory_iff cargo sub).mpr ⟨target, htarget, rfl⟩] at h
  cases h

/-- A response describes no second target directory. -/
theorem Target.iff_eq {response : Response} {a b : Path} (ha : Target response a) :
    Target response b ↔ b = a := by
  constructor
  · rintro ⟨text, htext, hb, -⟩
    obtain ⟨text', htext', ha, -⟩ := ha
    obtain rfl := Response.output.inj (htext.symm.trans htext')
    simpa using hb.symm.trans ha
  · rintro rfl
    exact ha

/-! ## The test executables -/

/-- The test executables in the messages of the build. -/
def readFiles (text : List Char) : Except Failure (List Path) :=
  (Artifact.testFiles text).mapError .artifact

theorem play_testFiles (cargo : String) (arguments : List Bytes) (environment : Environment)
    (responses : List Response) :
    (Toolchain.testFiles cargo arguments environment).play responses =
      ⟨answered (Toolchain.buildCommand cargo arguments environment) (responseAt responses 0)
        readFiles, [⟨.capture, Toolchain.buildCommand cargo arguments environment⟩],
        responses.drop 1⟩ :=
  play_capture_bind (fun _ _ => rfl) responses

theorem readFiles_eq_error_iff {text : List Char} {failure : Failure} :
    readFiles text = .error failure ↔
      ∃ error, BadMessage text error ∧ failure = .artifact error := by
  simp only [readFiles, Except.mapError_eq_error_iff, Artifact.testFiles_eq_error_iff,
    BadMessage]
  exact exists_congr fun error => and_congr_right fun _ => eq_comm

theorem files_iff (build : Command) {response : Response} {files : List Path} :
    answered build response readFiles = .ok files ↔ Built response files := by
  simp only [answered_eq_ok_iff, readFiles, Except.mapError_eq_ok_iff,
    Artifact.testFiles_eq_ok_iff, Built]
  constructor
  · rintro ⟨text, hresponse, artifacts, hdecodes, rfl⟩
    exact ⟨text, artifacts, hresponse, hdecodes, rfl⟩
  · rintro ⟨text, artifacts, hresponse, hdecodes, rfl⟩
    exact ⟨text, hresponse, artifacts, hdecodes, rfl⟩

theorem not_built_of_error {build : Command} {response : Response} {failure : Failure}
    (h : answered build response readFiles = .error failure) (files : List Path) :
    ¬ Built response files := by
  intro hfiles
  rw [(files_iff build).mpr hfiles] at h
  cases h

/-- A response lists no other files. -/
theorem Built.iff_eq {response : Response} {a b : List Path} (ha : Built response a) :
    Built response b ↔ b = a := by
  rw [← files_iff ⟨"", [], {}⟩, (files_iff _).mpr ha, Except.ok.injEq, eq_comm]

end TestCoverage.CoverageRun
