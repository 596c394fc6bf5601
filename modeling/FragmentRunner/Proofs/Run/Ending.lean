import FragmentRunner.Proofs.Build.Stages
import FragmentRunner.Proofs.Run.Library

/-!
# How a run ends

`Ends` has one rule for each way in which a run of a unit can end: for each stage that can fail the
rule of its first failure, the rule of a unit that the compiler refuses, and the rule of one that it
accepts. A rule names the stages that were passed, and gives the result, the files that are left and
the actions that were taken, so that nothing which comes later in the pipeline can have had an
effect.

* `ends_iff`: the rules are exactly what `execute` does.
* `runEnds_iff` and `exists_runEnds`: the same for the run of an interpreter.
-/

namespace FragmentRunner.Run

open BuildDirectory FileSystem

/-- The result of a run of `unit`, the files it leaves and the actions it takes, for a compiler that
does what `plan` says. -/
inductive Ends (build : BuildDirectory) (unit : String) (env : Environment) (plan : CompilerPlan)
    (before : FileSystem) : Except InterpreterError Outcome → FileSystem → List Event → Prop
  | noDirectory {e : IoError} (h : checkDirectory before build.directory = .error e) :
      Ends build unit env plan before (.error (.build (.io e))) before []
  | notWritten {e : IoError} (hdirectory : checkDirectory before build.directory = .ok ())
      (h : before.write build.unitSource (.text unit) = .error e) :
      Ends build unit env plan before (.error (.build (.io e))) before []
  | noCompiler {written : FileSystem} {e : LookupError}
      (hwritten : build.Written unit before written)
      (h : build.toolchain.resolve env written = .error e) :
      Ends build unit env plan before (.error (.build (.notFound e))) written []
  | noLog {written : FileSystem} {program : Path} {e : IoError}
      (hwritten : build.Written unit before written)
      (hfound : build.toolchain.resolve env written = .ok program)
      (h : written.write build.log (.bytes []) = .error e) :
      Ends build unit env plan before (.error (.build (.io e))) written []
  | notStarted {written opened : FileSystem} {program : Path} {e : IoError}
      (hwritten : build.Written unit before written)
      (hopened : build.LogOpened env written program opened)
      (h : checkStart env opened program (build.commandLine build.unitSource program) = .error e) :
      Ends build unit env plan before (.error (.build (.notStarted program e))) opened []
  | rejected {written compiled : FileSystem} {program : Path}
      (hwritten : build.Written unit before written)
      (hcompiled : build.Compiled build.unitSource env plan written program compiled)
      (h : plan.exit ≠ .exited 0) :
      Ends build unit env plan before
        (.ok (.rejected (Diagnostic.summarizeBytes plan.diagnostics) build.log)) compiled
        [.started (build.commandLine build.unitSource program)]
  | executed {written compiled : FileSystem} {program : Path}
      {result : Except InterpreterError Completion} {acts : List Event}
      (hwritten : build.Written unit before written)
      (hcompiled : build.Compiled build.unitSource env plan written program compiled)
      (h : plan.exit = .exited 0)
      (hexecutes : Executes compiled (build.library build.unitSource) result acts) :
      Ends build unit env plan before (result.map .executed) compiled
        (.started (build.commandLine build.unitSource program) :: acts)

section Execute

variable {build : BuildDirectory} {draft : Draft} {unit : String} {w : World} {fs : FileSystem}
  {r : Except InterpreterError Outcome} {acts : List Event}

/-- The summary is that of the bytes in the log. -/
theorem lastSummary_yields {ε : Type} {diagnostics : List UInt8}
    (h : w.files.content build.log = .ok (.bytes diagnostics)) :
    (build.lastSummary : Effect ε (Option String)).Yields w
      (.ok (Diagnostic.summarizeBytes diagnostics)) w.files [] := by
  have hread : w.files.read build.log = .ok diagnostics := by
    rw [FileSystem.read, h]
    rfl
  refine .bind_quiet (.ask _ w) fun w' hw' => ?_
  rw [hread, ← hw'.files]
  exact .pure _ w'

/-- Each rule is a way in which a run can end. -/
theorem Ends.yields (h : Ends build draft.render w.environment w.compiler w.files r fs acts) :
    (Interpreter.execute build draft).Yields w r fs acts := by
  refine .bind_quiet (.debug _ w) fun w₁ hw₁ => ?_
  rw [← hw₁.files, ← hw₁.environment, ← hw₁.compiler] at h
  -- The stages that a rule names are run one after the other, each in the world that the one before
  -- has left.
  cases h with
  | noDirectory h =>
    exact .bind_error (.mapError InterpreterError.build (writeSource_of_check_error h))
  | notWritten hdirectory h =>
    exact .bind_error (.mapError InterpreterError.build (writeSource_of_write_error hdirectory h))
  | noCompiler hwritten h =>
    refine .bind_quiet (.mapError InterpreterError.build hwritten.writeSource)
      fun w₂ hw₂ => ?_
    rw [← hw₂.files, ← hw₂.environment] at h
    rw [← hw₂.files]
    exact .bind_error (.mapError InterpreterError.build (compile_of_resolve_error h))
  | noLog hwritten hfound h =>
    refine .bind_quiet (.mapError InterpreterError.build hwritten.writeSource)
      fun w₂ hw₂ => ?_
    rw [← hw₂.files, ← hw₂.environment] at hfound
    rw [← hw₂.files] at h ⊢
    exact .bind_error (.mapError InterpreterError.build (compile_of_log_error hfound h))
  | notStarted hwritten hopened h =>
    refine .bind_quiet (.mapError InterpreterError.build hwritten.writeSource)
      fun w₂ hw₂ => ?_
    rw [← hw₂.files, ← hw₂.environment] at hopened
    rw [← hw₂.environment] at h
    exact .bind_error (.mapError InterpreterError.build (compile_of_start_error hopened h))
  | rejected hwritten hcompiled h =>
    refine .bind_quiet (.mapError InterpreterError.build hwritten.writeSource)
      fun w₂ hw₂ => ?_
    rw [← hw₂.files, ← hw₂.environment, ← hw₂.compiler] at hcompiled
    refine .bind_last (.mapError InterpreterError.build hcompiled.compile)
      fun w₃ hw₃ => ?_
    -- The summary is read from the log, which nothing has changed since the compiler ended.
    have hlog := hcompiled.content_log
    rw [← hw₃.files, hw₂.compiler] at hlog
    rw [← hw₂.compiler] at h
    simp only [ExitStatus.succeeded, h, decide_false, Bool.false_eq_true, if_false]
    refine .bind_quiet (lastSummary_yields hlog) fun w₄ hw₄ => ?_
    refine .bind_quiet (.info _ w₄) fun w₅ hw₅ => ?_
    rw [← hw₃.files, ← hw₄.files, ← hw₅.files]
    exact .pure _ w₅
  | executed hwritten hcompiled h hexecutes =>
    refine .bind_quiet (.mapError InterpreterError.build hwritten.writeSource)
      fun w₂ hw₂ => ?_
    rw [← hw₂.files, ← hw₂.environment, ← hw₂.compiler] at hcompiled
    rw [← List.singleton_append]
    refine .bind (.mapError InterpreterError.build hcompiled.compile)
      fun w₃ hw₃ => ?_
    rw [← hw₂.compiler] at h
    simp only [ExitStatus.succeeded, h, decide_true, if_true]
    refine .bind_quiet (.debug _ w₃) fun w₄ hw₄ => ?_
    rw [← hw₃.files, ← hw₄.files] at hexecutes ⊢
    exact .map Outcome.executed hexecutes.yields

/-- Some rule applies to every run: the stages are passed up to the first that fails. -/
theorem exists_ends (build : BuildDirectory) (unit : String) (env : Environment)
    (plan : CompilerPlan) (before : FileSystem) :
    ∃ r fs acts, Ends build unit env plan before r fs acts := by
  -- One stage after the other: its failure is a rule, and after its success comes the next.
  cases hdirectory : checkDirectory before build.directory with
  | error e => exact ⟨_, _, _, .noDirectory hdirectory⟩
  | ok u =>
  cases hwrite : before.write build.unitSource (.text unit) with
  | error e => exact ⟨_, _, _, .notWritten hdirectory hwrite⟩
  | ok written =>
  have hwritten : build.Written unit before written := ⟨hdirectory, hwrite⟩
  obtain ⟨made, fs, acts, hends⟩ := exists_compileEnds build build.unitSource env plan written
  cases hends with
  | noCompiler h => exact ⟨_, _, _, .noCompiler hwritten h⟩
  | noLog hfound h => exact ⟨_, _, _, .noLog hwritten hfound h⟩
  | notStarted hopened h => exact ⟨_, _, _, .notStarted hwritten hopened h⟩
  | ended hcompiled =>
    by_cases hexit : plan.exit = .exited 0
    · obtain ⟨result, acts, hexecutes⟩ := exists_executes fs (build.library build.unitSource)
      exact ⟨_, _, _, .executed hwritten hcompiled hexit hexecutes⟩
    · exact ⟨_, _, _, .rejected hwritten hcompiled hexit⟩

/-- The rules are exactly what `execute` does. -/
theorem ends_iff : (Interpreter.execute build draft).Yields w r fs acts ↔
    Ends build draft.render w.environment w.compiler w.files r fs acts := by
  constructor
  · intro h
    obtain ⟨r', fs', acts', hends⟩ :=
      exists_ends build draft.render w.environment w.compiler w.files
    obtain ⟨rfl, rfl, rfl⟩ := h.unique hends.yields
    exact hends
  · exact Ends.yields

/-- A run ends by one rule only. -/
theorem Ends.unique {r' : Except InterpreterError Outcome} {fs' : FileSystem} {acts' : List Event}
    (h : Ends build draft.render w.environment w.compiler w.files r fs acts)
    (h' : Ends build draft.render w.environment w.compiler w.files r' fs' acts') :
    r = r' ∧ fs = fs' ∧ acts = acts' :=
  h.yields.unique h'.yields

end Execute

/-! ## Runs of an interpreter -/

/-- How the run of an interpreter in a world ends. -/
def RunEnds (s : Interpreter) (w : World) :
    Except InterpreterError Outcome → FileSystem → List Event → Prop :=
  Ends s.build s.draft.render w.environment w.compiler w.files

/-- The rules are exactly what a run does. -/
theorem runEnds_iff {s : Interpreter} {w : World} {r : Except InterpreterError Outcome}
    {fs : FileSystem} {acts : List Event} :
    RunEnds s w r fs acts ↔ (s.run w).1 = r ∧ w.Becomes fs acts (s.run w).2.2 :=
  ends_iff.symm

/-- Every run ends by one of the rules. -/
theorem exists_runEnds (s : Interpreter) (w : World) :
    ∃ fs acts, RunEnds s w (s.run w).1 fs acts ∧ w.Becomes fs acts (s.run w).2.2 := by
  obtain ⟨r, fs, acts, h⟩ := exists_ends s.build s.draft.render w.environment w.compiler w.files
  obtain ⟨rfl, hworld⟩ := runEnds_iff.mp h
  exact ⟨fs, acts, h, hworld⟩

/-- The programs that a run starts and the entry points that it calls, in order. -/
def runActions (s : Interpreter) (w : World) : List Event :=
  (Event.actions (s.run w).2.2.history).drop (Event.actions w.history).length

/-- The actions of a run are those of the rule by which it ends. -/
theorem runActions_eq {s : Interpreter} {w : World} {fs : FileSystem} {acts : List Event}
    (h : w.Becomes fs acts (s.run w).2.2) : runActions s w = acts := by
  rw [runActions, h.actions, List.drop_left]

end FragmentRunner.Run
