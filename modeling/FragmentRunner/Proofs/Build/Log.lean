import FragmentRunner.Proofs.Build.Stages
import FragmentRunner.Proofs.Diagnostic.LogFile

/-!
# The log of a compile

The log is to tell of the last compile only, so a compile should leave in it what its own compiler
wrote, and nothing if it started none. The log is emptied after a compiler has been found and before
it is started. So the log is right however a compile ends, except if no compiler is found: then
the log is what an earlier compile left, and its summary is taken for one of this compile.

* `CompileEnds.logHolds`: the log after a compile that found its compiler.
* `log_of_compile_iff`: a compile leaves the log as it should if and only if it does not fail to
  find a compiler beside a log that is not empty.
-/

namespace FragmentRunner.BuildDirectory

open FileSystem

/-- The log is a file, or it is not there, but the directory for it is. -/
def LogReady (fs : FileSystem) (log : Path) : Prop :=
  ∃ loc, fs.locate log = .ok loc ∧ ∀ access, fs.node? loc ≠ some (.directory access)

/-- The log holds exactly `bytes`. A log that is not there holds nothing. -/
def LogHolds (fs : FileSystem) (log : Path) (bytes : List UInt8) : Prop :=
  fs.read log = .ok bytes ∨ fs.read log = .error .notFound ∧ bytes = []

/-- The programs that a compile starts, in order; it calls no entry points. -/
def compileActions (build : BuildDirectory) (source : Path) (w : World) : List Event :=
  (Event.actions (build.compile source w).2.history).drop (Event.actions w.history).length

/-- What a compiler writes to standard error if programs are started by `acts`, and nothing if none
is. -/
def saidBy (plan : CompilerPlan) (acts : List Event) : List UInt8 :=
  if acts.isEmpty then [] else plan.diagnostics

/-- What a compile has its compiler write to standard error. -/
def said (build : BuildDirectory) (source : Path) (w : World) : List UInt8 :=
  saidBy w.compiler (compileActions build source w)

section

variable {build : BuildDirectory} {source : Path} {env : Environment} {plan : CompilerPlan}
  {w : World} {r : Except BuildError Build} {before fs : FileSystem} {acts : List Event}
  {log : Path} {bytes : List UInt8}

/-- What the compiler of a compile says follows from the rule by which the compile ends. -/
theorem CompileEnds.said_eq
    (h : CompileEnds build source w.environment w.compiler w.files r fs acts) :
    said build source w = saidBy w.compiler acts := by
  rw [said, compileActions, h.yields.2.actions, List.drop_left]

/-- Without a compiler nothing is started, and the files are as they were. -/
theorem CompileEnds.of_notFound {e : LookupError}
    (h : CompileEnds build source env plan before (.error (.notFound e)) fs acts) :
    fs = before ∧ acts = [] := by
  cases h with
  | noCompiler h => exact ⟨rfl, rfl⟩

/-! ## What the log holds -/

/-- What is in the log is what it holds. -/
theorem logHolds_of_content (h : fs.content log = .ok (.bytes bytes)) : LogHolds fs log bytes := by
  left
  rw [FileSystem.read, h]
  rfl

/-- A log that can be there and cannot be written is not there. -/
theorem LogReady.logHolds_of_write_error {content : Content} {e : IoError}
    (h : LogReady fs build.log) (hwrite : fs.write build.log content = .error e) :
    LogHolds fs build.log [] := by
  obtain ⟨loc, hlocate, hnode⟩ := h
  have hslash : build.log.endsWithSlash = false := Path.endsWithSlash_join _ isPlain_logFile
  rw [FileSystem.write, locateFile_of_locate hlocate hslash] at hwrite
  rcases hfound : fs.node? loc with - | ⟨access⟩ | ⟨old, executable⟩
  · right
    simp [FileSystem.read, FileSystem.content, status, hlocate, hfound, bind, Except.bind]
  · exact absurd hfound (hnode access)
  · -- A file that is there can be written.
    simp [hfound, bind, Except.bind] at hwrite

/-- After a compile that found a compiler the log holds what this compiler wrote to standard error,
and nothing if it was not started. -/
theorem CompileEnds.logHolds (h : CompileEnds build source env plan before r fs acts)
    (hready : LogReady before build.log) (hfound : ∀ e, r ≠ .error (.notFound e)) :
    LogHolds fs build.log (saidBy plan acts) := by
  cases h with
  | noCompiler h => exact absurd rfl (hfound _)
  | noLog hfound h => exact hready.logHolds_of_write_error h
  | notStarted hopened h =>
    -- The log has been emptied for a compiler that never wrote to it.
    obtain ⟨loc, hwritten⟩ := write_eq_ok hopened.log
    exact logHolds_of_content hwritten.content_eq
  | ended h => exact logHolds_of_content h.content_log

/-- The summary of the last compile is that of the log, if it can be read. -/
theorem lastSummary_eq {ε : Type} (build : BuildDirectory) (w : World) :
    ((build.lastSummary : Effect ε (Option String)) w).1 =
      .ok ((w.files.read build.log).toOption.bind Diagnostic.summarizeBytes) := by
  cases hread : w.files.read build.log with
  | ok bytes => exact Diagnostic.summarizeFile_of_ok hread
  | error e => exact Diagnostic.summarizeFile_of_error hread

/-- What the log holds is what is summarized. -/
theorem LogHolds.summary (h : LogHolds fs log bytes) :
    (fs.read log).toOption.bind Diagnostic.summarizeBytes = Diagnostic.summarizeBytes bytes := by
  rcases h with hread | ⟨hread, rfl⟩
  · rw [hread]
    rfl
  · rw [hread, Diagnostic.summarizeBytes_nil]
    rfl

/-- Whatever a compile comes to, the log holds afterwards exactly what the compiler of this compile
wrote, except if no compiler was found and the log was not empty. The summary is that of this
compile, except if no compiler was found and the log had a summary. A compile that finds no compiler
leaves all files as they were. -/
theorem log_of_compile_iff {ε : Type} (build : BuildDirectory) (source : Path) (w : World)
    (hready : LogReady w.files build.log) :
    let result := (build.compile source w).1
    let after := (build.compile source w).2
    let summary := fun w => ((build.lastSummary : Effect ε (Option String)) w).1
    (LogHolds after.files build.log (said build source w) ↔
      ¬((∃ e, result = .error (.notFound e)) ∧ ¬LogHolds w.files build.log [])) ∧
    (summary after = .ok (Diagnostic.summarizeBytes (said build source w)) ↔
      ¬((∃ e, result = .error (.notFound e)) ∧ ∃ line, summary w = .ok (some line))) ∧
    ((∃ e, result = .error (.notFound e)) → after.files = w.files) := by
  intro result after summary
  obtain ⟨r, fs, acts, hends⟩ :=
    exists_compileEnds build source w.environment w.compiler w.files
  have hresult : result = r := hends.yields.1
  have hfiles : after.files = fs := hends.yields.2.files
  have hsummary : ∀ w, summary w = .ok _ := lastSummary_eq build
  rw [hends.said_eq, hresult, hfiles, hsummary after, hsummary w, hfiles]
  by_cases hfound : ∃ e, r = .error (.notFound e)
  · -- Log and summary are those of before, and the compile has no part in them.
    obtain ⟨e, rfl⟩ := hfound
    obtain ⟨rfl, rfl⟩ := hends.of_notFound
    have hsilent : saidBy w.compiler [] = [] := rfl
    rw [hsilent, Diagnostic.summarizeBytes_nil]
    cases (w.files.read build.log).toOption.bind Diagnostic.summarizeBytes <;> simp
  · have hholds := hends.logHolds hready (not_exists.mp hfound)
    rw [hholds.summary]
    exact ⟨iff_of_true hholds fun h => hfound h.1, iff_of_true rfl fun h => hfound h.1,
      fun h => absurd h hfound⟩

end

/-- A build directory with the log of an earlier compile. -/
def withLog : World where
  files := {
    entries := [
      (["out".toList, "error.log".toList],
        .file (.bytes (Text.Utf8.encode "runner.rs:1:1: error: old\n".toList)) false),
      (["out".toList], .directory .full)]
    here := [] }
  environment := ⟨[]⟩
  plans _ := ⟨[], .nothing, .exited 1⟩
  history := []

/-- The log of an earlier compile is a file. -/
theorem logReady_withLog : LogReady withLog.files (Path.ofString "out/error.log") :=
  ⟨["out".toList, "error.log".toList], by decide, fun access => by cases access <;> decide⟩

/-- A compiler that is not there is not started, but the log is emptied for it. -/
theorem log_emptied_before_start :
    let build : BuildDirectory := ⟨.ofString "out", { compiler := some (.ofString "bin/rustc") }⟩
    let source := Path.ofString "out/runner.rs"
    LogReady withLog.files build.log ∧
      (build.compile source withLog).1 =
        .error (.notStarted (.ofString "bin/rustc") .notFound) ∧
      LogHolds (build.compile source withLog).2.files build.log [] := by
  intro build source
  have hresult : (build.compile source withLog).1 =
      .error (.notStarted (.ofString "bin/rustc") .notFound) := by decide +kernel
  have hsaid : said build source withLog = [] := by decide +kernel
  obtain ⟨hlog, -, -⟩ := log_of_compile_iff (ε := Empty) build source withLog logReady_withLog
  rw [hsaid, hresult] at hlog
  exact ⟨logReady_withLog, hresult, hlog.mpr (by simp)⟩

/-- If no compiler is found, nothing is started, and the summary is that of an earlier compile. -/
theorem old_log_summarized :
    let build : BuildDirectory := ⟨.ofString "out", {}⟩
    let source := Path.ofString "out/runner.rs"
    let after := (build.compile source withLog).2
    LogReady withLog.files build.log ∧
      (build.compile source withLog).1 = .error (.notFound .noSearchPath) ∧
      compileActions build source withLog = [] ∧
      ¬LogHolds after.files build.log (said build source withLog) ∧
      ((build.lastSummary : Effect Empty (Option String)) after).1 =
        .ok (some "error: old") := by
  intro build source after
  have hread : after.files.read build.log =
      .ok (Text.Utf8.encode "runner.rs:1:1: error: old\n".toList) := by decide +kernel
  have hsaid : said build source withLog = [] := by decide +kernel
  refine ⟨logReady_withLog, by decide +kernel, by decide +kernel, ?_, by decide +kernel⟩
  rw [LogHolds, hread, hsaid]
  decide +kernel

end FragmentRunner.BuildDirectory
