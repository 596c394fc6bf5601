import FragmentRunner.Proofs.Run.Answers

/-!
# What a reset forgets

A reset empties the draft. One would want more of it: that the interpreter cannot be told apart from
a new one in the same directory. It forgets everything but the diagnostic of the latest run, which
stays until the next run.

* `reset_eq_new_iff`: a reset makes an interpreter as good as new exactly if it remembers no
  diagnostic, and it is only the diagnostic that can tell the two apart.
-/

namespace FragmentRunner.Run

/-- What can be read off an interpreter. -/
structure Sight where
  imports : List String
  statements : List String
  lastDiagnostic : Option String
  directory : Path
  log : Path
deriving DecidableEq

/-- What can be read off an interpreter at the moment. -/
def sight (s : Interpreter) : Sight where
  imports := s.draft.imports
  statements := s.draft.statements
  lastDiagnostic := s.lastDiagnostic
  directory := s.build.directory
  log := s.build.log

/-- No history tells two interpreters apart: its turns answer the same on both, and it leaves the
same to be seen of them and of the world. The empty history is one, so they look alike now. -/
def Indistinguishable (s s' : Interpreter) (w : World) : Prop :=
  ∀ turns, answers turns (s, w) = answers turns (s', w) ∧
    sight (performAll turns (s, w)).1 = sight (performAll turns (s', w)).1 ∧
    (performAll turns (s, w)).2 = (performAll turns (s', w)).2

/-- Two interpreters that differ at most in the diagnostic that they remember. -/
structure Alike (s s' : Interpreter) : Prop where
  draft : s.draft = s'.draft
  build : s.build = s'.build

section

variable {s s' : Interpreter} {w : World} {turn : Turn} {turns : List Turn}

/-- A turn does not depend on what is remembered. -/
theorem Alike.perform (h : Alike s s') (turn : Turn) (w : World) :
    turn.answer (s, w) = turn.answer (s', w) ∧
      Alike (turn.perform (s, w)).1 (turn.perform (s', w)).1 ∧
      (turn.perform (s, w)).2 = (turn.perform (s', w)).2 := by
  -- Once draft and build are the same, only the diagnostics are two.
  obtain ⟨draft, build, remembered⟩ := s
  obtain ⟨draft', build', remembered'⟩ := s'
  obtain ⟨rfl, rfl⟩ := h
  cases turn with
  | add text =>
    rw [perform_add, perform_add, Turn.answer, Turn.answer]
    cases hkind : FragmentKind.of? text with
    | none =>
      rw [add_of_refused _ w hkind, add_of_refused _ w hkind]
      exact ⟨rfl, ⟨rfl, rfl⟩, rfl⟩
    | some kind =>
      rw [add_of_kind _ w hkind, add_of_kind _ w hkind]
      exact ⟨rfl, ⟨rfl, rfl⟩, rfl⟩
  | addImport | reset | run | preview | setDirectory | elsewhere =>
    exact ⟨rfl, ⟨rfl, rfl⟩, rfl⟩

/-- A history does not depend on what was remembered before it. -/
theorem Alike.performAll (h : Alike s s') (turns : List Turn) (w : World) :
    answers turns (s, w) = answers turns (s', w) ∧
      Alike (performAll turns (s, w)).1 (performAll turns (s', w)).1 ∧
      (performAll turns (s, w)).2 = (performAll turns (s', w)).2 := by
  induction turns generalizing s s' w with
  | nil => exact ⟨rfl, h, rfl⟩
  | cons turn turns ih =>
    obtain ⟨hanswer, halike, hworld⟩ := h.perform turn w
    -- Both histories go on in one world.
    have hstate : turn.perform (s', w) = ((turn.perform (s', w)).1, (turn.perform (s, w)).2) :=
      Prod.ext rfl hworld.symm
    obtain ⟨hanswers, hafter, hworlds⟩ := ih halike (turn.perform (s, w)).2
    rw [← hstate] at hanswers hafter hworlds
    exact ⟨congrArg₂ List.cons hanswer hanswers, hafter, hworlds⟩

/-- Interpreters that are alike look the same if they remember the same. -/
theorem Alike.sight_eq (h : Alike s s') (hremembered : s.lastDiagnostic = s'.lastDiagnostic) :
    sight s = sight s' := by
  rw [sight, sight, h.draft, h.build, hremembered]

/-- A run is answered with its result. -/
theorem exists_latestResult (hrun : .run ∈ turns) (state : Interpreter × World) :
    ∃ result, latestResult? turns state = some result := by
  have hmem : ∃ result, .ran result ∈ answers turns state := by
    induction turns generalizing state with
    | nil => cases hrun
    | cons turn turns ih =>
      rcases List.mem_cons.mp hrun with rfl | hlater
      · exact ⟨_, List.mem_cons_self⟩
      · obtain ⟨result, hresult⟩ := ih hlater (turn.perform state)
        exact ⟨result, List.mem_cons_of_mem _ hresult⟩
  obtain ⟨result, hresult⟩ := hmem
  have hne : (answers turns state).filterMap Answer.result? ≠ [] :=
    List.ne_nil_of_mem (List.mem_filterMap.mpr ⟨_, hresult, rfl⟩)
  exact ⟨_, List.getLast?_eq_some_getLast hne⟩

/-- After a run interpreters that were alike before look the same. -/
theorem Alike.sight_performAll (h : Alike s s') (hrun : .run ∈ turns) (w : World) :
    sight (Run.performAll turns (s, w)).1 = sight (Run.performAll turns (s', w)).1 := by
  obtain ⟨hanswers, hafter, -⟩ := h.performAll turns w
  refine hafter.sight_eq ?_
  -- The answers are the same, so the latest result is, and it decides what is remembered.
  obtain ⟨result, hresult⟩ := exists_latestResult hrun (s, w)
  have hresult' : latestResult? turns (s', w) = some result := by
    rw [← hresult, latestResult?, latestResult?, hanswers]
  rw [lastDiagnostic_performAll, lastDiagnostic_performAll, hresult, hresult']

end

/-- Whatever happened to an interpreter, a reset makes it as good as new if and only if it remembers
no diagnostic, that is, if its latest run was not refused with one. If it remembers one, then it is
only this that tells the two apart, and only until the next run: every further history is answered
alike, does the same to the world and leaves the same draft and directory. -/
theorem reset_eq_new_iff (directory : Path) (toolchain : Toolchain) (turns : List Turn)
    (w : World) :
    let before := (Interpreter.new directory toolchain, w)
    let now := performAll turns before
    let fresh := Interpreter.new now.1.build.directory now.1.build.toolchain
    (Indistinguishable now.1.reset fresh now.2 ↔ now.1.lastDiagnostic = none) ∧
    (∀ summary, now.1.lastDiagnostic = some summary ↔
      ∃ log, latestResult? turns before = some (.ok (.rejected (some summary) log))) ∧
    (∀ more, answers more (now.1.reset, now.2) = answers more (fresh, now.2) ∧
      Alike (performAll more (now.1.reset, now.2)).1 (performAll more (fresh, now.2)).1 ∧
      (performAll more (now.1.reset, now.2)).2 = (performAll more (fresh, now.2)).2 ∧
      (.run ∈ more → sight (performAll more (now.1.reset, now.2)).1 =
        sight (performAll more (fresh, now.2)).1)) := by
  intro before now fresh
  have halike : Alike now.1.reset fresh := ⟨rfl, rfl⟩
  refine ⟨⟨fun hsame => ?_, fun hnone more => ?_⟩, fun summary => ?_, fun more => ?_⟩
  · -- The empty history shows what is remembered.
    obtain ⟨-, hsight, -⟩ := hsame []
    exact congrArg Sight.lastDiagnostic hsight
  · obtain ⟨hanswers, hafter, hworld⟩ := halike.performAll more now.2
    refine ⟨hanswers, hafter.sight_eq ?_, hworld⟩
    have hremembered : now.1.reset.lastDiagnostic = fresh.lastDiagnostic := hnone
    rw [lastDiagnostic_performAll, lastDiagnostic_performAll, latestResult?, latestResult?,
      hanswers, hremembered]
  · have hlatest : now.1.lastDiagnostic = _ := lastDiagnostic_performAll turns before
    rw [hlatest]
    rcases latestResult? turns before with - | ⟨e | completion | ⟨remembered, log⟩⟩ <;>
      simp [before, Interpreter.new, Except.toOption, Outcome.diagnostic?]
  · obtain ⟨hanswers, hafter, hworld⟩ := halike.performAll more now.2
    exact ⟨hanswers, hafter, hworld, fun hrun => halike.sight_performAll hrun now.2⟩

/-- A build directory with a compiler that refuses every unit. -/
def refusing : World where
  files := {
    entries := [
      (["out".toList], .directory .full),
      (["bin".toList, "rustc".toList], .file (.bytes []) true),
      (["bin".toList], .directory .full)]
    here := [] }
  environment := ⟨[]⟩
  plans _ := ⟨Text.Utf8.encode "error: expected expression\n".toList, .nothing, .exited 1⟩
  history := []

/-- After a unit was refused, a reset leaves the summary of its diagnostics, which a new interpreter
does not have. -/
theorem diagnostic_survives_reset :
    let now := performAll [.add "let x = ;", .run]
      (Interpreter.new (.ofString "out") { compiler := some (.ofString "bin/rustc") }, refusing)
    now.1.reset.lastDiagnostic = some "error: expected expression" ∧
    ¬ Indistinguishable now.1.reset
      (Interpreter.new now.1.build.directory now.1.build.toolchain) now.2 := by
  intro now
  have hremembered : now.1.reset.lastDiagnostic = some "error: expected expression" := by
    decide +kernel
  refine ⟨hremembered, fun hsame => ?_⟩
  obtain ⟨-, hsight, -⟩ := hsame []
  have hnone : now.1.reset.lastDiagnostic = none := congrArg Sight.lastDiagnostic hsight
  rw [hremembered] at hnone
  cases hnone

end FragmentRunner.Run
