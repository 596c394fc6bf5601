import FragmentRunner.Proofs.Effect.Silent
import FragmentRunner.Proofs.Run.Answers

/-!
# What is said before a run and in it

What has been logged and printed does not matter to a run, and a run prints nothing of its own.
`World.Alike` is said of worlds that differ in nothing but that.

* `run_alike` and `Turn.perform_alike`: a run, and any other turn, in two worlds that are alike.
* `run_silent` and `Turn.perform_silent`: nothing is printed.
-/

namespace FragmentRunner

/-- `w'` differs from `w` at most in what was logged and printed. -/
abbrev World.Alike (w w' : World) : Prop := w.Becomes w.files [] w'

namespace World.Alike

variable {w w' w'' : World}

theorem trans (h : w.Alike w') (h' : w'.Alike w'') : w.Alike w'' := by
  have hworld := Becomes.trans h h'
  rwa [h.files] at hworld

/-- Worlds that are reached from worlds that are alike, with the same files and by the same actions,
are alike. -/
theorem of_becomes {fs : FileSystem} {acts : List Event} {v v' : World} (h : w.Alike w')
    (hv : w.Becomes fs acts v) (hv' : w'.Becomes fs acts v') : v.Alike v' where
  files := hv'.files.trans hv.files.symm
  environment := by rw [hv'.environment, hv.environment, h.environment]
  plans := by rw [hv'.plans, hv.plans, h.plans]
  actions := by rw [hv'.actions, hv.actions, h.actions, List.append_nil, List.append_nil]

end World.Alike

/-- `w'` is `w` after `text` was printed, and perhaps something logged. -/
structure World.Prints (w : World) (text : String) (w' : World) : Prop
    extends w.Becomes w.files [] w' where
  output : Event.standardOutput w'.history = Event.standardOutput w.history ++ text

namespace World.Prints

variable {w w' w'' : World} {text more : String}

/-- Nothing was printed. -/
theorem refl (w : World) : w.Prints "" w where
  toBecomes := .refl w
  output := String.append_empty.symm

/-- Texts that are printed after each other are joined. -/
theorem trans (h : w.Prints text w') (h' : w'.Prints more w'') : w.Prints (text ++ more) w'' where
  toBecomes := Alike.trans h.toBecomes h'.toBecomes
  output := by rw [h'.output, h.output, String.append_assoc]

/-- An event that is no action adds its text. -/
theorem record (event : Event) (h : event.isAction = false) (w : World) :
    w.Prints event.outputText { w with history := w.history ++ [event] } where
  files := rfl
  environment := rfl
  plans := rfl
  actions := by simp [Event.actions, h]
  output := by rw [Event.standardOutput_append, Event.standardOutput_singleton]

end World.Prints

namespace BuildDirectory

open Effect

/-- Writing the source prints nothing. -/
theorem writeSource_silent (build : BuildDirectory) (relative : Path) (content : String) :
    (build.writeSource relative content).Silent := by
  have hcheck : build.check.Silent := by
    refine .bind (.ask _) fun status => ?_
    rcases status with e | ⟨access⟩ | ⟨content, executable⟩
    · exact .fail _
    · exact .pure _
    · exact .fail _
  have hprepare : (build.prepare relative).Silent := by
    rw [prepare]
    cases relative.parent? with
    | none => exact .pure _
    | some parent =>
      simp only
      split_ifs
      · exact .pure _
      · exact .changeAnyway _
  refine .bind (.mapError _ hcheck) fun _ => .bind (.mapError _ hprepare) fun _ => ?_
  exact .bind (.mapError _ (.change _)) fun _ => .bind (.debug _) fun _ => .pure _

/-- A compiler writes to the log, and not to standard output. -/
theorem compile_silent (build : BuildDirectory) (source : Path) :
    (build.compile source).Silent := by
  -- That the compiler was started is recorded; what it says itself goes to the log file.
  have hstart : ∀ program arguments, (startCompiler program arguments build.log).Silent := by
    intro program arguments w
    rw [startCompiler]
    split_ifs
    · rfl
    · split
      · rfl
      · exact Event.standardOutput_concat_of_empty rfl w.history
  have hresolve : ∀ resolve : World → Except LookupError Path,
      Silent fun w => (resolve w, w) := fun _ _ => rfl
  refine .bind (.mapError _ (hresolve _)) fun program => .bind (.mapError _ (.change _)) fun _ => ?_
  refine .bind (.debug _) fun _ => .bind (.mapError _ (hstart _ _)) fun _ => ?_
  exact .bind (.info _) fun _ => .pure _

/-- Reading the diagnostics prints nothing, also if they cannot be read. -/
theorem lastSummary_silent {ε : Type} (build : BuildDirectory) :
    (build.lastSummary : Effect ε (Option String)).Silent := by
  refine .bind (.ask _) fun read => ?_
  rcases read with e | bytes
  · cases e with
    | notFound => exact .pure _
    | _ => exact .bind (.warn _) fun _ => .pure _
  · exact .pure _

end BuildDirectory

namespace LoadedUnit

open Effect

/-- Removing a staging file prints nothing. -/
theorem unstage_silent {ε : Type} (path : Path) : (unstage path : Effect ε Unit).Silent :=
  .of_history fun _ => rfl

/-- Loading a unit prints nothing. -/
theorem load_silent (path : Path) (name : String) : (load path name).Silent := by
  have hcreate : (createStaged path name).Silent := by
    refine .of_history fun w => ?_
    rw [createStaged]
    split <;> rfl
  have hstage : (stage path name).Silent := by
    refine .bind (.mapError _ hcreate) fun staged =>
      .bind (.attempt (.changeAnyway _)) fun copied => ?_
    cases copied with
    | ok => exact .pure _
    | error e => exact .bind (unstage_silent _) fun _ => .fail _
  refine .bind (.ask _) fun isFile => ?_
  cases isFile with
  | false => exact .fail _
  | true =>
    refine .bind hstage fun staged => .bind (.debug _) fun _ => .bind (.ask _) fun image => ?_
    cases image with
    | none => exact .bind (unstage_silent _) fun _ => .fail _
    | some image => exact .pure _

/-- What an entry point prints is not of the program's saying. -/
theorem invoke_silent (unit : LoadedUnit) (symbol : String) : (unit.invoke symbol).Silent := by
  rw [invoke]
  cases unit.image.status? (String.ofList (readSymbol symbol)) with
  | none => exact .fail _
  | some status =>
    exact .bind (.debug _) fun _ => .bind (.record rfl) fun _ => .ofExcept _

end LoadedUnit

namespace Run

open Effect BuildDirectory LoadedUnit

/-- Executing a library prints nothing, and neither does the way out of a call that failed. -/
theorem executeLibrary_silent (library : Path) : (Interpreter.executeLibrary library).Silent := by
  refine .bind (.mapError _ (load_silent _ _)) fun unit w => ?_
  have hinvoke : (Effect.mapError InterpreterError.call (unit.invoke entrySymbol)).Silent :=
    .mapError _ (invoke_silent _ _)
  have hcalled := hinvoke w
  -- The unit is closed in both cases, which a bind does not say.
  rcases hresult : Effect.mapError InterpreterError.call (unit.invoke entrySymbol) w with
    ⟨e | completion, mid⟩
  · rw [hresult] at hcalled
    have hfail : (do unit.close; Effect.fail e : Effect InterpreterError Completion).Silent :=
      .bind (unstage_silent _) fun _ => .fail e
    exact (hfail mid).trans hcalled
  · rw [hresult] at hcalled
    have hclose : (do
        Effect.info s!"{unitName} finished: {completion.name}"
        unit.close
        return completion : Effect InterpreterError Completion).Silent :=
      .bind (.info _) fun _ => .bind (unstage_silent _) fun _ => .pure completion
    exact (hclose mid).trans hcalled

/-- None of the stages of a run prints anything. -/
theorem execute_silent (build : BuildDirectory) (draft : Draft) :
    (Interpreter.execute build draft).Silent := by
  refine .bind (.debug _) fun _ => .bind (.mapError _ (writeSource_silent _ _ _)) fun source => ?_
  refine .bind (.mapError _ (compile_silent _ _)) fun made => ?_
  cases made.succeeded with
  | true =>
    exact .bind (.debug _) fun _ => .bind (executeLibrary_silent _) fun _ => .pure _
  | false =>
    exact .bind (lastSummary_silent _) fun _ => .bind (.info _) fun _ => .pure _

section

variable {s : Interpreter} {w w' : World}

/-- Nothing is printed in a run. -/
theorem run_silent (s : Interpreter) (w : World) :
    Event.standardOutput (s.run w).2.2.history = Event.standardOutput w.history :=
  execute_silent s.build s.draft w

/-- A run in a world that is alike comes to the same, and leaves a world that is alike. -/
theorem run_alike (h : w.Alike w') (s : Interpreter) :
    (s.run w').1 = (s.run w).1 ∧ (s.run w').2.1 = (s.run w).2.1 ∧
      (s.run w).2.2.Alike (s.run w').2.2 ∧ runActions s w' = runActions s w := by
  obtain ⟨fs, acts, hends, hworld⟩ := exists_runEnds s w
  -- The rule by which the run ends does not look at the history.
  have hends' : RunEnds s w' (s.run w).1 fs acts := by
    rw [RunEnds, h.environment, h.compiler, h.files]
    exact hends
  obtain ⟨hresult, hworld'⟩ := runEnds_iff.mp hends'
  -- All that a run keeps of its result is the diagnostic.
  have hinterpreter : (s.run w').2.1 = (s.run w).2.1 := by
    have hstate : ∀ v, (s.run v).2.1 = { s with
        draft := .empty, lastDiagnostic := (s.run v).1.toOption.bind Outcome.diagnostic? } := by
      intro v
      rw [← lastDiagnostic_run]
      rfl
    rw [hstate, hstate, hresult]
  refine ⟨hresult, hinterpreter, h.of_becomes hworld hworld', ?_⟩
  rw [runActions_eq hworld, runActions_eq hworld']

/-! ## Turns -/

/-- Adding a fragment prints nothing; an import is logged. -/
theorem add_silent (s : Interpreter) (text : String) : (s.add text).Silent := by
  rw [Interpreter.add]
  cases s.add? text with
  | none => exact .fail _
  | some s' =>
    simp only
    split_ifs
    · exact .bind (.debug _) fun _ => .pure s'
    · exact .pure s'

/-- A turn answers the same in worlds that are alike. -/
theorem Turn.answer_alike (h : w.Alike w') (turn : Turn) (s : Interpreter) :
    turn.answer (s, w') = turn.answer (s, w) := by
  cases turn with
  | add text =>
    cases hkind : FragmentKind.of? text with
    | none => simp [Turn.answer, add_of_refused, hkind]
    | some kind => simp [Turn.answer, add_of_kind s _ hkind]
  | run => exact congrArg Answer.ran (run_alike h s).1
  | addImport | reset | preview | setDirectory | elsewhere => rfl

/-- A turn makes the same of an interpreter in worlds that are alike, and leaves them alike. -/
theorem Turn.perform_alike (h : w.Alike w') (turn : Turn) (s : Interpreter) :
    (turn.perform (s, w')).1 = (turn.perform (s, w)).1 ∧
      (turn.perform (s, w)).2.Alike (turn.perform (s, w')).2 := by
  cases turn with
  | add text =>
    have hadded := (add_yields s text w).2
    have hadded' := (add_yields s text w').2
    rw [h.files] at hadded'
    rw [fst_perform_add, fst_perform_add, snd_perform_add, snd_perform_add]
    exact ⟨rfl, h.of_becomes hadded hadded'⟩
  | run => exact ⟨(run_alike h s).2.1, (run_alike h s).2.2.1⟩
  | addImport | reset | preview | setDirectory => exact ⟨rfl, h⟩
  | elsewhere v => exact ⟨rfl, .refl v⟩

/-- A turn of the interpreter prints nothing. -/
theorem Turn.perform_silent {turn : Turn} (hturn : ∀ v, turn ≠ .elsewhere v) (s : Interpreter)
    (w : World) :
    Event.standardOutput (turn.perform (s, w)).2.history = Event.standardOutput w.history := by
  cases turn with
  | add text =>
    rw [snd_perform_add]
    exact add_silent s text w
  | run => exact run_silent s w
  | addImport | reset | preview | setDirectory => rfl
  | elsewhere v => exact absurd rfl (hturn v)

/-- A turn of the interpreter changes no variable of the environment. -/
theorem Turn.perform_environment {turn : Turn} (hturn : ∀ v, turn ≠ .elsewhere v)
    (s : Interpreter) (w : World) : (turn.perform (s, w)).2.environment = w.environment := by
  cases turn with
  | add text =>
    rw [snd_perform_add]
    exact (add_yields s text w).2.environment
  | run =>
    obtain ⟨fs, acts, -, hworld⟩ := exists_runEnds s w
    exact hworld.environment
  | addImport | reset | preview | setDirectory => rfl
  | elsewhere v => exact absurd rfl (hturn v)

end

end Run

end FragmentRunner
