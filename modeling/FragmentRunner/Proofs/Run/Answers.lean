import FragmentRunner.Proofs.Run.Accounting
import FragmentRunner.SharedInterpreter

/-!
# What turns answer

`Turn.perform` says what a turn makes of an interpreter, `Turn.answer` what it tells its caller.

* `answer_add_iff`: whether a fragment is accepted is decided by its text alone.
* `lastDiagnostic_performAll`: the diagnostic that is remembered is that of the latest run.
-/

namespace FragmentRunner.Run

/-- What a turn tells its caller. -/
inductive Answer
  /-- Only that it is done. -/
  | done
  | added (result : Except InterpreterError Unit)
  | ran (result : Except InterpreterError Outcome)
  /-- The text of the unit that the draft makes. -/
  | shown (unit : String)
deriving DecidableEq

/-- The result of a run, if it is a run that answered. -/
def Answer.result? : Answer → Option (Except InterpreterError Outcome)
  | .ran result => some result
  | _ => none

/-- What a turn answers. -/
def Turn.answer : Turn → Interpreter × World → Answer
  | .add text, (s, w) => .added (SharedInterpreter.add text s w).1
  | .run, (s, w) => .ran (s.run w).1
  | .preview, (s, _) => .shown s.draft.render
  | _, _ => .done

/-- The answers of a history, in order. -/
def answers : List Turn → Interpreter × World → List Answer
  | [], _ => []
  | turn :: turns, state => turn.answer state :: answers turns (turn.perform state)

/-- The result of the latest run of a history, if there was one. -/
def latestResult? (turns : List Turn) (state : Interpreter × World) :
    Option (Except InterpreterError Outcome) :=
  ((answers turns state).filterMap Answer.result?).getLast?

/-! ## Adding a fragment -/

section Add

variable {text : String} {kind : FragmentKind} (s : Interpreter) (w : World)

/-- The world after a fragment was accepted: an import is logged. -/
def afterAccepting (text : String) (w : World) : World :=
  if isImport text then
    { w with history := w.history ++ [.logged .debug ("Routing to imports: " ++ text)] }
  else w

/-- A fragment that is refused changes nothing. -/
theorem add_of_refused (h : FragmentKind.of? text = none) :
    SharedInterpreter.add text s w = (.error .returnStatement, s, w) := by
  simp [SharedInterpreter.add, Interpreter.add, Interpreter.add?, h, Effect.fail]

/-- A fragment that is accepted goes to the buffer for its kind. -/
theorem add_of_kind (h : FragmentKind.of? text = some kind) :
    SharedInterpreter.add text s w =
      (.ok (), { s with draft := s.draft.addFragment text kind }, afterAccepting text w) := by
  have hadd : s.add? text = some { s with draft := s.draft.addFragment text kind } := by
    simp [Interpreter.add?, h]
  rw [SharedInterpreter.add, Interpreter.add, hadd, afterAccepting]
  by_cases himport : isImport text = true
  · simp only [himport, if_true]
    rfl
  · simp only [himport, Bool.false_eq_true, if_false]
    rfl

/-- The turn that adds a fragment leaves what the call through a handle leaves. -/
theorem perform_add (text : String) :
    (Turn.add text).perform (s, w) = (SharedInterpreter.add text s w).2 := by
  rw [Turn.perform, SharedInterpreter.add]
  rcases s.add text w with ⟨e | s', w'⟩ <;> rfl

/-- A fragment is accepted if and only if its text has a kind, whatever the interpreter and the
world are. -/
theorem answer_add_iff (state : Interpreter × World) :
    (Turn.add text).answer state = .added (.ok ()) ↔ (FragmentKind.of? text).isSome = true := by
  obtain ⟨s, w⟩ := state
  rw [Turn.answer]
  cases hkind : FragmentKind.of? text with
  | none => simp [add_of_refused s w hkind]
  | some kind => simp [add_of_kind s w hkind]

end Add

/-! ## The latest run -/

section Latest

variable {turns : List Turn} {turn : Turn} {state : Interpreter × World}

/-- The last turn answers last. -/
theorem answers_concat (turns : List Turn) (turn : Turn) (state : Interpreter × World) :
    answers (turns ++ [turn]) state =
      answers turns state ++ [turn.answer (performAll turns state)] := by
  induction turns generalizing state with
  | nil => rfl
  | cons first turns ih =>
    have hperform : performAll (first :: turns) state = performAll turns (first.perform state) :=
      rfl
    rw [List.cons_append, answers, ih, answers, hperform, List.cons_append]

/-- A turn remembers its own diagnostic if it is a run, and else what was remembered before. -/
theorem lastDiagnostic_perform (turn : Turn) (state : Interpreter × World) :
    (turn.perform state).1.lastDiagnostic =
      match (turn.answer state).result? with
      | some result => result.toOption.bind Outcome.diagnostic?
      | none => state.1.lastDiagnostic := by
  obtain ⟨s, w⟩ := state
  cases turn with
  | add text =>
    rw [perform_add]
    cases hkind : FragmentKind.of? text with
    | none => simp [add_of_refused s w hkind, Turn.answer, Answer.result?]
    | some kind => simp [add_of_kind s w hkind, Turn.answer, Answer.result?]
  | run => exact lastDiagnostic_run s w
  | addImport | reset | preview | setDirectory | elsewhere => rfl

/-- What is remembered after a history is the diagnostic of its latest run, and what was remembered
before if there was none. -/
theorem lastDiagnostic_performAll (turns : List Turn) (state : Interpreter × World) :
    (performAll turns state).1.lastDiagnostic =
      match latestResult? turns state with
      | some result => result.toOption.bind Outcome.diagnostic?
      | none => state.1.lastDiagnostic := by
  -- The latest run is the last turn or one before it, so the induction takes turns off the end.
  induction turns using List.reverseRecOn with
  | nil => rfl
  | append_singleton turns turn ih =>
    rw [performAll_concat, lastDiagnostic_perform, latestResult?, answers_concat,
      List.filterMap_append]
    cases hresult : (turn.answer (performAll turns state)).result? with
    | none =>
      rw [ih]
      simp [latestResult?, hresult]
    | some result => simp [hresult]

end Latest

end FragmentRunner.Run
