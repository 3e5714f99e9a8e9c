/-
  TestCoverage.Proofs.CoverageRun.SearchPath

  Where the build and the test executables look for libraries: in the directories that were
  searched before, and last in the compiler's own.  Neither changes the entries of the other, as
  one colon lies between them and the compiler's directory brings no further one.
-/
import TestCoverage.Proofs.Command
import TestCoverage.Proofs.CoverageRun.Places
import TestCoverage.Proofs.Text.Pieces
import TestCoverage.Proofs.Text.Utf8

namespace TestCoverage.CoverageRun

open Text (AllBlank)

/-! ## Entries -/

/-- The entries of a search path. -/
def entries (path : Bytes) : List Bytes :=
  Text.pieces Environment.listSeparator path

/-- The entries that were searched before; a path that is not set has an empty one, like a path
    that is empty. -/
def priorEntries : Option Bytes → List Bytes
  | none => [[]]
  | some path => entries path

/-- The directory of the compiler's libraries, which lies in that of the compiler. -/
def libraries (sysroot : List Char) : Bytes :=
  Utf8.encode sysroot ++ Utf8.ofString (if sysroot.getLast? = some '/' then "lib" else "/lib")

theorem priorEntries_eq (prior : Option Bytes) :
    priorEntries prior = entries (prior.getD []) := by
  cases prior <;> rfl

/-- What is joined is the directory of the libraries, with or without a slash of its own. -/
theorem join_lib {sysroot : List Char} (h : sysroot ≠ []) :
    Path.join (Utf8.encode sysroot) (Utf8.ofString "lib") = libraries sysroot := by
  have hrelative : Path.isAbsolute (Utf8.ofString "lib") = false := by decide
  have hslash : (Utf8.encode sysroot).getLast? = some Path.separator ↔
      sysroot.getLast? = some '/' := Utf8.getLast?_encode_eq_iff (by decide) (by decide)
  have hne : Utf8.encode sysroot ≠ [] := Utf8.encode_ne_nil h
  by_cases hends : sysroot.getLast? = some '/'
  · simp [Path.join, libraries, hrelative, hslash, hends]
  · have hlib : Utf8.ofString "/lib" = Path.separator :: Utf8.ofString "lib" := by decide
    simp [Path.join, libraries, hrelative, hslash, hends, hne, hlib]

/-- No colon is in the directory of the libraries if none is in that of the compiler. -/
theorem notMem_libraries {sysroot : List Char} (h : ':' ∉ sysroot) :
    Environment.listSeparator ∉ libraries sysroot := by
  have hcolon : Environment.listSeparator ∈ Utf8.encode sysroot ↔ ':' ∈ sysroot :=
    Utf8.mem_encode_iff (by decide) (by decide)
  rw [libraries, List.mem_append, hcolon, not_or]
  refine ⟨h, ?_⟩
  split <;> decide

/-- The libraries are not looked for in whatever directory is the current one. -/
theorem libraries_ne {sysroot : List Char} (h : sysroot ≠ []) :
    libraries sysroot ≠ Utf8.ofString "lib" := by
  intro heq
  have hlength := congrArg List.length heq
  have hpos : 0 < (Utf8.encode sysroot).length :=
    List.length_pos_iff.mpr (Utf8.encode_ne_nil h)
  have hlib : (Utf8.ofString "lib").length = 3 := by decide
  have hslashed : (Utf8.ofString "/lib").length = 4 := by decide
  rw [libraries, List.length_append] at hlength
  split at hlength <;> omega

/-! ## The search path of a child -/

/-- A search path that is extended by one entry has this entry behind its own. -/
theorem entries_append (path : Bytes) {entry : Bytes}
    (h : Environment.listSeparator ∉ entry) :
    entries (path ++ Environment.listSeparator :: entry) = entries path ++ [entry] := by
  rw [entries, Text.pieces_append_separator, Text.pieces_of_not_mem h, entries]

/-- The search path that an instrumented environment sets. -/
theorem get?_libraryPath (flags : String) {sysroot : List Char} (h : sysroot ≠ [])
    (prior : Option Bytes) (inherited : VariableBlock) :
    ((Environment.instrumented flags (Utf8.encode sysroot) prior).applyTo inherited).get?
        (Utf8.ofString "LD_LIBRARY_PATH") =
      some (prior.getD [] ++ Environment.listSeparator :: libraries sysroot) := by
  have hnames : (Environment.instrumented flags (Utf8.encode sysroot) prior).names.Nodup :=
    (Environment.Origin.instrumented flags (Utf8.encode sysroot) prior).nodup_names
  rw [Environment.get?_applyTo hnames, Environment.get?_instrumented, if_neg (by decide),
    if_pos rfl, Option.some_or, join_lib h, Environment.ofString_colon, List.append_assoc,
    List.singleton_append]

section
variable {settings : Settings} {prior : Option Bytes} {arguments : List Bytes}

/-- White space around the answer of the compiler makes no difference to a run. -/
theorem play_run_pad {before after : List Char} (hbefore : AllBlank before)
    (hafter : AllBlank after) (output : List Char) (responses : List Response) :
    (run settings prior arguments).play (.output (before ++ (output ++ after)) :: responses) =
      (run settings prior arguments).play (.output output :: responses) := by
  have hread : readSysroot settings.tools.rustc (before ++ (output ++ after)) =
      readSysroot settings.tools.rustc output := by
    rw [readSysroot, Text.trim_pad hbefore hafter, readSysroot]
  have hsysroot : (Toolchain.sysroot settings.tools.rustc).play
        (.output (before ++ (output ++ after)) :: responses) =
      (Toolchain.sysroot settings.tools.rustc).play (.output output :: responses) := by
    simp only [play_sysroot, responseAt, List.getD_cons_zero, List.drop_one, List.tail_cons,
      answered, Response.answer, Except.mapError_ok, Except.bind, hread]
  rw [run_eq_stages, Routine.play_bind, Routine.play_bind, hsysroot]

end

/-! ## The search path of a run -/

/-- The build and every collection of a run that comes to the build look for libraries first where
    they were looked for before, entry by entry, and last in the directory of the compiler's
    libraries, unless the compiler has named a directory with a colon; the last entry is never
    the bare name of that directory.  It makes no difference whether the search path was empty or
    not set, and none which white space is around the answer of the compiler. -/
theorem searchPath_entries (settings : Settings) (prior : Option Bytes)
    (arguments : List Bytes) :
    (∀ responses, ∀ call ∈ ((run settings prior arguments).play responses).calls.drop 2,
      ∃ output path, responseAt responses 0 = .output output ∧
        (∀ inherited, (call.command.environment.applyTo inherited).get?
          (Utf8.ofString "LD_LIBRARY_PATH") = some path) ∧
        (':' ∉ Text.trim output →
          entries path = priorEntries prior ++ [libraries (Text.trim output)]) ∧
        libraries (Text.trim output) ≠ Utf8.ofString "lib") ∧
    run settings none arguments = run settings (some []) arguments ∧
    ∀ before output after responses, AllBlank before → AllBlank after →
      (run settings prior arguments).play (.output (before ++ (output ++ after)) :: responses) =
        (run settings prior arguments).play (.output output :: responses) := by
  refine ⟨fun responses call hcall => ?_, rfl, fun before output after responses hbefore hafter =>
    play_run_pad hbefore hafter output responses⟩
  obtain ⟨i, hi⟩ := List.getElem?_of_mem hcall
  rw [List.getElem?_drop] at hi
  obtain ⟨sysroot, ⟨output, houtput, hblank, rfl⟩, henvironment⟩ :=
    (standsAt_of_getElem? hi).exists_sysroot (Nat.le_add_right 2 i)
  have hne : Text.trim output ≠ [] := (Text.trim_eq_nil_iff output).not.mpr hblank
  refine ⟨output, prior.getD [] ++ Environment.listSeparator :: libraries (Text.trim output),
    houtput, fun inherited => ?_, fun hcolon => ?_, libraries_ne hne⟩
  · rw [henvironment, get?_libraryPath _ hne]
  · rw [entries_append _ (notMem_libraries hcolon), priorEntries_eq]

/-- A search path that is no text and ends in a colon keeps both of its entries, the second of
    which is empty, and white space that is not ASCII is taken from the compiler's answer. -/
theorem searchPath_entries_not_text :
    let prior : Bytes := [0x2F, 0xFF, 0x3A]
    let document := "\x7b\"target_directory\":\"/t\"\x7d".toList
    let message := "\x7b\"profile\":\x7b\"test\":true\x7d,\"filenames\":[\"a\"]\x7d".toList
    let responses : List Response :=
      [.output " /r/\u00A0\n".toList, .output document, .output message, .output []]
    ∃ call ∈ ((run {} (some prior) []).play responses).calls, call.purpose = .run ∧
      ∃ path, (call.command.environment.applyTo []).get? (Utf8.ofString "LD_LIBRARY_PATH") =
          some path ∧
        entries path = [[0x2F, 0xFF], [], Utf8.ofString "/r/lib"] := by
  intro prior document message responses
  have hcall : ⟨.run, collectCommand {} (some prior) (Utf8.ofString "/r/")
      (Utf8.ofString "/t/cov") (Utf8.ofString "a")⟩ ∈
        ((run {} (some prior) []).play responses).calls.drop 2 := by decide +kernel
  obtain ⟨output, path, houtput, hpath, hentries, -⟩ :=
    (searchPath_entries {} (some prior) []).1 responses _ hcall
  obtain rfl : " /r/\u00A0\n".toList = output := Response.output.inj houtput
  refine ⟨_, List.mem_of_mem_drop hcall, rfl, path, hpath [], ?_⟩
  rw [hentries (by decide +kernel)]
  decide +kernel

end TestCoverage.CoverageRun
