import FragmentRunner.Proofs.Program.Ending
import FragmentRunner.Proofs.Run.Messages

/-!
# Fragments given on the command line

The command that executes fragments is all or nothing. It adds every fragment before it runs
anything, so one that is refused, wherever it stands, keeps all of them from being run. Otherwise
there is one run, of the unit that the fragments make, and its result decides the exit status.

* `addAll_of_refused` and `addAll_of_accepted`: what adding all fragments comes to.
* `execute_of_refused` and `execute_of_accepted`: the same for the command.
* `execution_all_or_nothing`: the exit status, the files and the compilers of the whole program.
-/

namespace FragmentRunner.Program

open Run BuildDirectory

/-! ## Adding all fragments -/

/-- The texts that are fragments of a kind, in order. -/
def ofKind (kind : FragmentKind) (texts : List String) : List String :=
  texts.filter fun text => FragmentKind.of? text = some kind

/-- The draft with more fragments, which go where their kind says. -/
def withFragments (draft : Draft) (texts : List String) : Draft where
  imports := draft.imports ++ ofKind .imported texts
  statements := draft.statements ++ ofKind .statement texts

section Add

variable {text : String} {texts : List String} {kind : FragmentKind}

/-- The first fragment goes to the buffer for its kind, and the others after it. -/
theorem withFragments_cons (draft : Draft) (h : FragmentKind.of? text = some kind)
    (texts : List String) :
    withFragments draft (text :: texts) = withFragments (draft.addFragment text kind) texts := by
  cases kind <;>
    simp [withFragments, ofKind, h, Draft.addFragment, Draft.addImport, Draft.addStatement]

/-- Imports go to the draft as they are given, whatever they say. -/
theorem foldl_addImport (s : Interpreter) (imports : List String) :
    imports.foldl Interpreter.addImport s =
      { s with draft := { s.draft with imports := s.draft.imports ++ imports } } := by
  induction imports generalizing s with
  | nil => simp
  | cons text imports ih =>
    rw [List.foldl_cons, ih]
    simp [Interpreter.addImport, Draft.addImport]

/-- Where one of the fragments is refused, whichever it is, all that has happened is that imports
before it were logged. -/
theorem addAll_of_refused (s : Interpreter) (w : World)
    (h : ∃ text ∈ texts, FragmentKind.of? text = none) :
    (s.addAll texts).Yields w (.error .returnStatement) w.files [] := by
  -- The fragments in front of the one that is refused change the interpreter and the log.
  induction texts generalizing s w with
  | nil => simp at h
  | cons text texts ih =>
    have hadd := add_yields s text w
    rw [Interpreter.add?] at hadd
    cases hkind : FragmentKind.of? text with
    | none =>
      rw [hkind] at hadd
      exact .bind_error hadd
    | some kind =>
      rw [hkind] at hadd
      have hrest : ∃ text ∈ texts, FragmentKind.of? text = none := by simpa [hkind] using h
      refine .bind_quiet hadd fun w' hw' => ?_
      rw [← hw'.files]
      exact ih _ w' hrest

/-- Fragments that are all accepted go to the draft, each where its kind says. -/
theorem addAll_of_accepted (s : Interpreter) (w : World)
    (h : ∀ text ∈ texts, FragmentKind.of? text ≠ none) :
    (s.addAll texts).Yields w (.ok { s with draft := withFragments s.draft texts }) w.files [] := by
  induction texts generalizing s w with
  | nil =>
    have hsame : withFragments s.draft [] = s.draft := by simp [withFragments, ofKind]
    rw [hsame]
    exact .pure s w
  | cons text texts ih =>
    obtain ⟨hfirst, hrest⟩ := List.forall_mem_cons.mp h
    obtain ⟨kind, hkind⟩ := Option.ne_none_iff_exists'.mp hfirst
    have hadd := add_yields s text w
    rw [Interpreter.add?, hkind] at hadd
    refine .bind_quiet hadd fun w' hw' => ?_
    have hall := ih { s with draft := s.draft.addFragment text kind } w' hrest
    rwa [← withFragments_cons s.draft hkind, hw'.files] at hall

end Add

/-! ## The one run -/

/-- What a run as a part of `task` means for the program. -/
def ofRun (task : String) : Except InterpreterError Outcome → Except Failure UInt8
  | .ok (.executed _) => .ok 0
  | .ok (.rejected ..) => .ok 1
  | .error e => .error (e.failure.within task)

section Run

variable {task : String} {r : Except InterpreterError Outcome} {imports texts : List String}

/-- The status is 0 if the unit was executed, even if it panicked. -/
theorem exitStatus_ofRun_eq_zero_iff :
    exitStatus (ofRun task r) = 0 ↔ ∃ completion, r = .ok (.executed completion) := by
  rcases r with e | ⟨completion⟩ | ⟨summary, log⟩ <;> simp [ofRun, exitStatus]

/-- The status is 1 if the compiler refused the unit, or the unit could not be built, loaded or
called; a run fails in no other way. -/
theorem exitStatus_ofRun_eq_one_iff (h : r ≠ .error .returnStatement) :
    exitStatus (ofRun task r) = 1 ↔ (∃ summary log, r = .ok (.rejected summary log)) ∨
      (∃ e, r = .error (.build e)) ∨ (∃ e, r = .error (.load e)) ∨ ∃ e, r = .error (.call e) := by
  rcases r with e | ⟨completion⟩ | ⟨summary, log⟩
  · cases e with
    | returnStatement => exact absurd rfl h
    | build | load | call => simp [ofRun, exitStatus]
  · simp [ofRun, exitStatus]
  · simp [ofRun, exitStatus]

/-- There is no other status after a run. -/
theorem exitStatus_ofRun_cases (task : String) (r : Except InterpreterError Outcome) :
    exitStatus (ofRun task r) = 0 ∨ exitStatus (ofRun task r) = 1 := by
  rcases r with e | ⟨completion⟩ | ⟨summary, log⟩ <;> simp [ofRun, exitStatus]

/-- The program runs the interpreter once, and reports what went wrong. -/
theorem runOnce_yields (task : String) (s : Interpreter) (w : World) :
    (runOnce task s).Yields w (ofRun task (s.run w).1) (s.run w).2.2.files (runActions s w) := by
  obtain ⟨fs, acts, -, hworld⟩ := exists_runEnds s w
  rw [hworld.files, runActions_eq hworld]
  have hrun : Effect.Yields (fun w => ((s.run w).1, (s.run w).2.2)) w (s.run w).1 fs acts :=
    ⟨rfl, hworld⟩
  have hfailed := hrun.mapError (fun e => e.failure.within task)
  rcases hresult : (s.run w).1 with e | ⟨completion⟩ | ⟨summary, log⟩
  · rw [hresult] at hfailed
    exact .bind_error hfailed
  · rw [hresult] at hfailed
    exact .bind_last hfailed fun w' hw' => hw'.files ▸ .pure 0 w'
  · rw [hresult] at hfailed
    exact .bind_last hfailed fun w' hw' => hw'.files ▸ .report_pure _ 1 w'

/-- A fragment that is refused leads to the status 2, and nothing is run. -/
theorem execute_of_refused (s : Interpreter) (imports : List String) (w : World)
    (h : ∃ text ∈ texts, FragmentKind.of? text = none) :
    (execute s imports texts).Yields w (.ok 2) w.files [] := by
  refine .bind_quiet (.attempt (addAll_of_refused _ w h)) fun w' hw' => ?_
  rw [← hw'.files]
  exact .report_pure _ 2 w'

/-- Fragments that are all accepted are run once, after the imports. -/
theorem execute_of_accepted (s : Interpreter) (w : World)
    (h : ∀ text ∈ texts, FragmentKind.of? text ≠ none) :
    let draft := withFragments { s.draft with imports := s.draft.imports ++ imports } texts
    let ready := { s with draft }
    (execute s imports texts).Yields w (ofRun "Failed to run statements" (ready.run w).1)
      (ready.run w).2.2.files (runActions ready w) := by
  intro draft ready
  have hadded := addAll_of_accepted (imports.foldl Interpreter.addImport s) w h
  rw [execute]
  rw [foldl_addImport] at hadded ⊢
  refine .bind_quiet (.attempt hadded) fun w' hw' => ?_
  -- What was logged while the fragments were added does not matter to the run.
  have halike : w.Alike w' := hw'
  obtain ⟨hresult, -, hworld, hactions⟩ := run_alike halike ready
  rw [← hresult, ← hactions, ← hworld.files]
  exact runOnce_yields _ ready w'

end Run

/-! ## The program -/

section Program

variable {options : Options} {settings : Settings} {directory : Path} {w : World}

/-- If any of the fragments is refused, the program ends with the status 2, has started no compiler
and has changed no file. Otherwise there is one run, of the unit that the imports make, followed by
the fragments that are imports, and the other fragments, each in the order of the arguments; the
program starts one compiler, on that unit, or a stage of the run before that fails. The status is 0
if and only if the unit was executed, even if it panicked; it is 1 if the compiler refused the unit,
or the unit could not be compiled, loaded or called. -/
theorem execution_all_or_nothing (imports fragments : List String) (input : LineInput)
    (hsettings : (settle options w).1 = .ok settings)
    (hdirectory : (requireDirectory options settings w).1 = .ok directory) :
    let ending := completed (conclude (perform options (.execute imports fragments) input)) w
    let s : Interpreter := {
      draft := {
        imports := imports ++ ofKind .imported fragments
        statements := ofKind .statement fragments }
      build := { directory, toolchain := settings.toolchain } }
    ((∃ text ∈ fragments, FragmentKind.of? text = none) →
      ending.1 = 2 ∧ w.Becomes w.files [] ending.2) ∧
    ((∀ text ∈ fragments, FragmentKind.of? text ≠ none) →
      w.Becomes (s.run w).2.2.files (runActions s w) ending.2 ∧
      ((∃ program, Event.startedPrograms (runActions s w) =
            [s.build.commandLine s.build.unitSource program] ∧
          ending.2.files.content s.build.unitSource = .ok (.text s.draft.render)) ∨
        Event.startedPrograms (runActions s w) = [] ∧
          ∃ e, Unstarted s w e ∧ (s.run w).1 = .error (.build e)) ∧
      (ending.1 = 0 ↔ ∃ completion, (s.run w).1 = .ok (.executed completion)) ∧
      (ending.1 = 1 ↔ (∃ summary log, (s.run w).1 = .ok (.rejected summary log)) ∨
        (∃ e, (s.run w).1 = .error (.build e)) ∨ (∃ e, (s.run w).1 = .error (.load e)) ∨
        ∃ e, (s.run w).1 = .error (.call e)) ∧
      (ending.1 = 0 ∨ ending.1 = 1)) ∧
    ∀ arguments bytes,
      CommandLine.parse? arguments = some (.perform options (.execute imports fragments)) →
      LineInput.ofBytes bytes = input →
        (run arguments bytes w).status = ending.1 ∧ (run arguments bytes w).world = ending.2 := by
  intro ending s
  have hperform := perform_execute imports fragments input hsettings hdirectory
  refine ⟨fun hrefused => ?_, fun haccepted => ?_, fun arguments bytes hparse hinput => ?_⟩
  · -- One is refused: nothing but the log is changed before that.
    have hexecute :=
      execute_of_refused (.new directory settings.toolchain) imports w hrefused
    exact completed_conclude (hexecute.congr hperform.symm)
  · -- All are accepted: the rest is one run, and its result.
    have hexecute : (execute (.new directory settings.toolchain) imports fragments).Yields w
        (ofRun "Failed to run statements" (s.run w).1) (s.run w).2.2.files (runActions s w) :=
      execute_of_accepted _ w haccepted
    obtain ⟨hstatus, hworld⟩ := completed_conclude (hexecute.congr hperform.symm)
    obtain ⟨fs, acts, hends, hrun⟩ := exists_runEnds s w
    refine ⟨hworld, ?_, ?_, ?_, ?_⟩
    · rw [hworld.files, runActions_eq hrun, hrun.files]
      exact hends.started_or_error
    · rw [hstatus]
      exact exitStatus_ofRun_eq_zero_iff
    · rw [hstatus]
      exact exitStatus_ofRun_eq_one_iff hends.ne_returnStatement
    · rw [hstatus]
      exact exitStatus_ofRun_cases _ _
  · rw [run, hparse]
    subst hinput
    exact ⟨rfl, rfl⟩

end Program

/-- An output directory, and a compiler on the search path that accepts every unit. -/
def accepting : World where
  files := {
    entries := [
      (["out".toList], .directory .full),
      (["bin".toList, "rustc".toList], .file (.bytes []) true),
      (["bin".toList], .directory .full)]
    here := [] }
  environment := ⟨[("PATH", "/bin")]⟩
  plans _ := ⟨[], .file (.image ⟨[(entrySymbol, 0)]⟩), .exited 0⟩
  history := []

/-- One fragment that is refused, after one that is accepted, keeps both from being run. Others are
run, with the import that is given as such and the one that is found among them at the front of the
unit. -/
theorem execution_refused_or_run :
    let options : Options := { outputDirectory := some (.ofString "out") }
    let ending := fun fragments =>
      completed (conclude (perform options (.execute ["use a;"] fragments) [])) accepting
    let refused := ["let x = 1;", " return;", "f(x);"]
    let run := ["let x = 1;", "use b;", "f(x);"]
    let s : Interpreter := {
      draft := { imports := ["use a;", "use b;"], statements := ["let x = 1;", "f(x);"] }
      build := { directory := .ofString "/out", toolchain := {} } }
    ((settle options accepting).1 = .ok {} ∧
      (requireDirectory options {} accepting).1 = .ok (.ofString "/out")) ∧
    ((ending refused).1 = 2 ∧ accepting.Becomes accepting.files [] (ending refused).2) ∧
    (ending run).1 = 0 ∧
    Event.actions (ending run).2.history =
      [.started (s.build.commandLine s.build.unitSource (.ofString "/bin/rustc")),
        .called entrySymbol] ∧
    (ending run).2.files.content s.build.unitSource = .ok (.text s.draft.render) := by
  intro options ending refused run s
  have hsettings : (settle options accepting).1 = .ok {} := by decide +kernel
  have hdirectory : (requireDirectory options {} accepting).1 = .ok (.ofString "/out") := by
    decide +kernel
  have hreturn : FragmentKind.of? " return;" = none := by decide +kernel
  have hrefused := (execution_all_or_nothing ["use a;"] refused [] hsettings hdirectory).1
    ⟨" return;", by simp [refused], hreturn⟩
  -- The unit is that of the two imports and the two statements, and its run completes.
  have hkinds : ∀ text ∈ run, FragmentKind.of? text ≠ none := by decide +kernel
  have himports : ["use a;"] ++ ofKind .imported run = ["use a;", "use b;"] := by decide +kernel
  have hstatements : ofKind .statement run = ["let x = 1;", "f(x);"] := by decide +kernel
  have hrun := (execution_all_or_nothing ["use a;"] run [] hsettings hdirectory).2.1 hkinds
  rw [himports, hstatements] at hrun
  obtain ⟨hworld, hstarted, hstatus, -⟩ := hrun
  have hexecuted : (s.run accepting).1 = .ok (.executed .completed) := by decide +kernel
  have hactions : runActions s accepting =
      [.started (s.build.commandLine s.build.unitSource (.ofString "/bin/rustc")),
        .called entrySymbol] := by decide +kernel
  refine ⟨⟨hsettings, hdirectory⟩, hrefused, hstatus.mpr ⟨_, hexecuted⟩, ?_, ?_⟩
  · rw [hworld.actions, hactions]
    rfl
  · rcases hstarted with ⟨program, -, hsource⟩ | ⟨hnone, -⟩
    · have hending : ending run = completed
          (conclude (perform options (.execute ["use a;"] run) [])) accepting := rfl
      rw [hending]
      exact hsource
    · rw [hactions] at hnone
      cases hnone

end FragmentRunner.Program
