import FragmentRunner.Proofs.Run.Ending

/-!
# What a run comes to

The results of a run, the actions behind them and the state of the interpreter afterwards, each read
off the rules of `Ends`.

* `run_by_stages`: which stage decides the result, and what has happened by then.
* `state_after_run`: what an interpreter is left with, whatever the run came to.
-/

namespace FragmentRunner.Run

open BuildDirectory FileSystem

/-- A run gets as far as the call of the entry point of `image`, which returns `status`. -/
inductive Calls (s : Interpreter) (w : World) (image : Image) (status : Int32) : Prop
  | intro {written compiled : FileSystem} {program : Path}
      (hwritten : s.build.Written s.draft.render w.files written)
      (hcompiled : s.build.Compiled s.build.unitSource w.environment w.compiler written program
        compiled)
      (hexit : w.compiler.exit = .exited 0)
      (hopens : Opens compiled (s.build.library s.build.unitSource) image)
      (hstatus : image.status? entrySymbol = some status)

/-- A run cannot write its unit, and why: there is no directory to build in, or the source cannot be
written there. -/
inductive Unwritten (s : Interpreter) (w : World) (e : IoError) : Prop
  | noDirectory (h : checkDirectory w.files s.build.directory = .error e)
  | notWritten (hdirectory : checkDirectory w.files s.build.directory = .ok ())
      (h : w.files.write s.build.unitSource (.text s.draft.render) = .error e)

/-- A run does not get as far as its compiler, and why: the first stage that fails is one before
that. -/
inductive Unstarted (s : Interpreter) (w : World) : BuildError → Prop
  | unwritten {e : IoError} (h : Unwritten s w e) : Unstarted s w (.io e)
  | noCompiler {written : FileSystem} {e : LookupError}
      (hwritten : s.build.Written s.draft.render w.files written)
      (h : s.build.toolchain.resolve w.environment written = .error e) :
      Unstarted s w (.notFound e)
  | noLog {written : FileSystem} {program : Path} {e : IoError}
      (hwritten : s.build.Written s.draft.render w.files written)
      (hfound : s.build.toolchain.resolve w.environment written = .ok program)
      (h : written.write s.build.log (.bytes []) = .error e) :
      Unstarted s w (.io e)
  | notStarted {written opened : FileSystem} {program : Path} {e : IoError}
      (hwritten : s.build.Written s.draft.render w.files written)
      (hopened : s.build.LogOpened w.environment written program opened)
      (h : checkStart w.environment opened program
        (s.build.commandLine s.build.unitSource program) = .error e) :
      Unstarted s w (.notStarted program e)

section

variable {s : Interpreter} {w : World} {r : Except InterpreterError Outcome} {fs : FileSystem}
  {acts : List Event} {image : Image} {status : Int32}

/-- The status that the entry point returns decides the result. -/
theorem Calls.runEnds (h : Calls s w image status) : ∃ fs command,
    RunEnds s w (((Completion.ofStatus status).mapError .call).map .executed) fs
      [.started command, .called entrySymbol] := by
  obtain ⟨hwritten, hcompiled, hexit, hopens, hstatus⟩ := h
  exact ⟨_, _, .executed hwritten hcompiled hexit (hopens.executes hstatus)⟩

/-- A run calls the entry point or executes nothing, and it calls nothing before a compiler was
started. -/
theorem RunEnds.calls_or_not (h : RunEnds s w r fs acts) :
    (∃ image status command, Calls s w image status ∧
        r = ((Completion.ofStatus status).mapError .call).map .executed ∧
        acts = [.started command, .called entrySymbol]) ∨
      (∀ completion, r ≠ .ok (.executed completion)) ∧
        (acts = [] ∨ ∃ command, acts = [.started command]) := by
  cases h with
  | noDirectory | notWritten | noCompiler | noLog | notStarted =>
    exact .inr ⟨fun _ => nofun, .inl rfl⟩
  | rejected => exact .inr ⟨fun _ => nofun, .inr ⟨_, rfl⟩⟩
  | executed hwritten hcompiled hexit hexecutes =>
    rcases hexecutes.error_or_opens with
      ⟨⟨e, rfl⟩, rfl⟩ | ⟨image, status, hopens, hstatus, rfl, rfl⟩
    · exact .inr ⟨fun _ => nofun, .inr ⟨_, rfl⟩⟩
    · exact .inl ⟨image, status, _, ⟨hwritten, hcompiled, hexit, hopens, hstatus⟩, rfl, rfl⟩

/-- A run leaves the unit in its source, or it could not write it, and nothing was written. -/
theorem RunEnds.source_or_nothing (h : RunEnds s w r fs acts) :
    fs.content s.build.unitSource = .ok (.text s.draft.render) ∨
      (∃ e, Unwritten s w e ∧ r = .error (.build (.io e))) ∧ fs = w.files ∧ acts = [] := by
  cases h with
  | noDirectory h => exact .inr ⟨⟨_, .noDirectory h, rfl⟩, rfl, rfl⟩
  | notWritten hdirectory h => exact .inr ⟨⟨_, .notWritten hdirectory h, rfl⟩, rfl, rfl⟩
  | noCompiler hwritten | noLog hwritten => exact .inl hwritten.content_source
  | notStarted hwritten hopened =>
    exact .inl (content_source_of_write_log hopened.log hwritten.content_source)
  | rejected hwritten hcompiled | executed hwritten hcompiled =>
    exact .inl (hcompiled.content_source hwritten)

/-- A run never fails as if a fragment had been refused. -/
theorem RunEnds.ne_returnStatement (h : RunEnds s w r fs acts) : r ≠ .error .returnStatement := by
  cases h with
  | noDirectory | notWritten | noCompiler | noLog | notStarted | rejected => nofun
  | executed hwritten hcompiled hexit hexecutes => cases hexecutes <;> nofun

/-- A run starts one compiler, on the unit that the draft makes, or a stage before that fails. -/
theorem RunEnds.started_or_error (h : RunEnds s w r fs acts) :
    (∃ program, Event.startedPrograms acts = [s.build.commandLine s.build.unitSource program] ∧
        fs.content s.build.unitSource = .ok (.text s.draft.render)) ∨
      Event.startedPrograms acts = [] ∧ ∃ e, Unstarted s w e ∧ r = .error (.build e) := by
  cases h with
  | noDirectory h => exact .inr ⟨rfl, _, .unwritten (.noDirectory h), rfl⟩
  | notWritten hdirectory h => exact .inr ⟨rfl, _, .unwritten (.notWritten hdirectory h), rfl⟩
  | noCompiler hwritten h => exact .inr ⟨rfl, _, .noCompiler hwritten h, rfl⟩
  | noLog hwritten hfound h => exact .inr ⟨rfl, _, .noLog hwritten hfound h, rfl⟩
  | notStarted hwritten hopened h => exact .inr ⟨rfl, _, .notStarted hwritten hopened h, rfl⟩
  | rejected hwritten hcompiled => exact .inl ⟨_, rfl, hcompiled.content_source hwritten⟩
  | executed hwritten hcompiled hexit hexecutes =>
    rcases hexecutes.error_or_opens with ⟨-, rfl⟩ | ⟨-, -, -, -, -, rfl⟩ <;>
      exact .inl ⟨_, rfl, hcompiled.content_source hwritten⟩

/-- Whatever a run comes to, it leaves the unit in its source, or it could not write it, and nothing
was written. -/
theorem run_source_or_nothing (s : Interpreter) (w : World) :
    (s.run w).2.2.files.content s.build.unitSource = .ok (.text s.draft.render) ∨
      (∃ e, Unwritten s w e ∧ (s.run w).1 = .error (.build (.io e))) ∧
        (s.run w).2.2.files = w.files ∧ runActions s w = [] := by
  obtain ⟨fs, acts, hends, hworld⟩ := exists_runEnds s w
  rw [hworld.files, runActions_eq hworld]
  exact hends.source_or_nothing

/-- A run ends with a completion if and only if the entry point was called and returned its
status. -/
theorem run_eq_executed_iff {completion : Completion} :
    (s.run w).1 = .ok (.executed completion) ↔
      ∃ image status, Calls s w image status ∧ Completion.ofStatus status = .ok completion := by
  obtain ⟨fs, acts, hends, hworld⟩ := exists_runEnds s w
  constructor
  · intro hresult
    rcases hends.calls_or_not with ⟨image, status, command, hcalls, hstatus, -⟩ | ⟨hnot, -⟩
    · -- The status is one that is understood, for otherwise the result would be an error.
      refine ⟨image, status, hcalls, ?_⟩
      rw [hresult] at hstatus
      cases hcompletion : Completion.ofStatus status with
      | error e => simp [hcompletion, Except.map, Except.mapError] at hstatus
      | ok other => simpa [hcompletion, Except.map, Except.mapError] using hstatus.symm
    · exact absurd hresult (hnot completion)
  · rintro ⟨image, status, hcalls, hcompletion⟩
    obtain ⟨fs', command, hcalled⟩ := hcalls.runEnds
    rw [(runEnds_iff.mp hcalled).1, hcompletion]
    rfl

/-- An entry point is called if and only if the run gets as far. -/
theorem called_mem_runActions_iff {symbol : String} :
    .called symbol ∈ runActions s w ↔
      symbol = entrySymbol ∧ ∃ image status, Calls s w image status := by
  obtain ⟨fs, acts, hends, hworld⟩ := exists_runEnds s w
  constructor
  · rw [runActions_eq hworld]
    intro hcalled
    rcases hends.calls_or_not with
      ⟨image, status, command, hcalls, -, rfl⟩ | ⟨-, rfl | ⟨command, rfl⟩⟩
    · exact ⟨by simpa using hcalled, image, status, hcalls⟩
    · cases hcalled
    · simp at hcalled
  · rintro ⟨rfl, image, status, hcalls⟩
    obtain ⟨fs', command, hcalled⟩ := hcalls.runEnds
    rw [runActions_eq (runEnds_iff.mp hcalled).2]
    simp

end

/-! ## The stages of a run -/

/-- A run passes its stages in order and ends with the first that fails: result, files and actions
are those of the one rule of `Ends` that applies. At most one compiler is started, and only on the
source that was written. The entry point is called, once, if and only if the compiler accepted the
unit and the library opens and exports it; so nothing is called after a compiler that ended in any
other way, whatever library it found. -/
theorem run_by_stages (s : Interpreter) (w : World) :
    (∀ r fs acts, RunEnds s w r fs acts ↔ (s.run w).1 = r ∧ w.Becomes fs acts (s.run w).2.2) ∧
    (runActions s w = [] ∨ ∃ command, runActions s w = [.started command] ∨
      runActions s w = [.started command, .called entrySymbol]) ∧
    (∀ command, .started command ∈ runActions s w →
      (s.run w).2.2.files.content s.build.unitSource = .ok (.text s.draft.render)) ∧
    (∀ symbol, .called symbol ∈ runActions s w ↔
      symbol = entrySymbol ∧ ∃ image status, Calls s w image status) ∧
    (w.compiler.exit ≠ .exited 0 → ∀ symbol, .called symbol ∉ runActions s w) ∧
    ((s.run w).1 = .ok (.executed .completed) ↔ ∃ image, Calls s w image 0) ∧
    ((s.run w).1 = .ok (.executed .panicked) ↔ ∃ image, Calls s w image 1) ∧
    ((s.run w).1.map Outcome.succeeded = .ok true ↔
      (s.run w).1 = .ok (.executed .completed) ∨ (s.run w).1 = .ok (.executed .panicked)) := by
  obtain ⟨fs, acts, hends, hworld⟩ := exists_runEnds s w
  -- The table is `runEnds_iff`; everything else is read off the one rule that applies.
  refine ⟨fun _ _ _ => runEnds_iff, ?_, ?_, fun _ => called_mem_runActions_iff, ?_, ?_, ?_, ?_⟩
  · rw [runActions_eq hworld]
    rcases hends.calls_or_not with ⟨-, -, command, -, -, hacts⟩ | ⟨-, hnone | ⟨command, hone⟩⟩
    · exact .inr ⟨command, .inr hacts⟩
    · exact .inl hnone
    · exact .inr ⟨command, .inl hone⟩
  · intro command hstarted
    rw [runActions_eq hworld] at hstarted
    rw [hworld.files]
    refine hends.source_or_nothing.resolve_right fun hnothing => ?_
    rw [hnothing.2.2] at hstarted
    cases hstarted
  · intro hexit symbol hcalled
    obtain ⟨-, image, status, hcalls⟩ := called_mem_runActions_iff.mp hcalled
    obtain ⟨-, -, haccepted, -, -⟩ := hcalls
    exact hexit haccepted
  · simp [run_eq_executed_iff, ofStatus_eq_completed_iff]
  · simp [run_eq_executed_iff, ofStatus_eq_panicked_iff]
  · rcases (s.run w).1 with e | ⟨⟨⟩ | ⟨⟩⟩ | ⟨summary, log⟩ <;> simp [Except.map, Outcome.succeeded]

/-! ## The state after a run -/

/-- What is remembered is the diagnostic of the outcome, and nothing after a failure. -/
theorem lastDiagnostic_run (s : Interpreter) (w : World) :
    (s.run w).2.1.lastDiagnostic = (s.run w).1.toOption.bind Outcome.diagnostic? := by
  rw [Interpreter.run]
  rcases Interpreter.execute s.build s.draft w with ⟨e | outcome, w'⟩ <;> rfl

end FragmentRunner.Run
