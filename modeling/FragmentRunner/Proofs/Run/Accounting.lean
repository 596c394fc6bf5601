import FragmentRunner.Proofs.Run.Outcome
import Mathlib.Data.List.DropRight

/-!
# What becomes of fragments

A history of an interpreter is a list of turns: calls of its operations, and changes that others
make in the world in between. `pending` is what the history says should be in a buffer: the
fragments that were accepted since the buffers were last emptied.

* `buffer_perform`: what one turn does to a buffer.
* `buffer_performAll` and `taken_append_buffer`: what a history leaves in a buffer, and what became
  of the rest.
* `fragments_accounted_for`: what is pending is what the next run writes out, whatever the runs
  before it came to, and every fragment is taken by one run or one reset or is still there.
-/

namespace FragmentRunner.Run

open BuildDirectory FileSystem

/-- What happens to an interpreter. Both operations that sort a fragment by its text are `add`, and
both that run the draft are `run`: they differ in what they tell of the outcome. -/
inductive Turn
  | add (text : String)
  | addImport (text : String)
  | reset
  | run
  | preview
  | setDirectory (directory : Path)
  /-- The world becomes another one without the interpreter. -/
  | elsewhere (w : World)

namespace Turn

/-- The interpreter and the world after a turn; a fragment that is refused changes neither. -/
def perform : Turn → Interpreter × World → Interpreter × World
  | .add text, (s, w) =>
    match s.add text w with
    | (.ok s', w') => (s', w')
    | (.error _, w') => (s, w')
  | .addImport text, (s, w) => (s.addImport text, w)
  | .reset, (s, w) => (s.reset, w)
  | .run, (s, w) => (s.run w).2
  | .preview, state => state
  | .setDirectory directory, (s, w) => (s.setDirectory directory, w)
  | .elsewhere w, (s, _) => (s, w)

/-- The fragment that a turn adds, with the buffer that it goes to. -/
def fragment? : Turn → Option (FragmentKind × String)
  | .add text => (FragmentKind.of? text).map (·, text)
  | .addImport text => some (.imported, text)
  | _ => none

/-- Whether a turn empties the buffers. -/
def clears : Turn → Bool
  | .reset | .run => true
  | _ => false

end Turn

/-- The interpreter and the world after a history. -/
def performAll (turns : List Turn) (state : Interpreter × World) : Interpreter × World :=
  turns.foldl (fun state turn => turn.perform state) state

/-- The buffer for the fragments of a kind. -/
def buffer (draft : Draft) : FragmentKind → List String
  | .imported => draft.imports
  | .statement => draft.statements

/-- The fragments of a kind that are accepted in a history, in order. -/
def accepted (kind : FragmentKind) (turns : List Turn) : List String :=
  turns.filterMap fun turn =>
    turn.fragment?.bind fun (own, text) => if own = kind then some text else none

/-- The turns after the last one that empties the buffers. -/
def sinceCleared (turns : List Turn) : List Turn :=
  turns.rtakeWhile fun turn => !turn.clears

/-- What a history should leave in a buffer that held `initial` before it. -/
def pending (kind : FragmentKind) (initial : List String) (turns : List Turn) : List String :=
  (if turns.any Turn.clears then [] else initial) ++ accepted kind (sinceCleared turns)

/-- The turns that emptied the buffers in a history, each with the draft that it took. -/
def taken : List Turn → Interpreter × World → List (Turn × Draft)
  | [], _ => []
  | turn :: turns, state =>
    if turn.clears then (turn, state.1.draft) :: taken turns (turn.perform state)
    else taken turns (turn.perform state)

section

variable (kind : FragmentKind) {initial : List String} {turns : List Turn} {turn : Turn}
  {state : Interpreter × World}

/-- Adding a fragment comes to what its text says; an import is logged, which changes no file. -/
theorem add_yields (s : Interpreter) (text : String) (w : World) :
    (s.add text).Yields w ((s.add? text).elim (.error .returnStatement) .ok) w.files [] := by
  rw [Interpreter.add]
  cases s.add? text with
  | none => exact .fail _ w
  | some s' =>
    by_cases himport : isImport text
    · simp only [himport, if_true]
      exact .bind_quiet (.debug _ w) fun w' hw' => hw'.files ▸ .pure s' w'
    · simp only [himport, Bool.false_eq_true, if_false]
      exact .pure s' w

/-- Adding a fragment comes to what its text says, whatever is logged on the way. -/
theorem fst_perform_add (text : String) (s : Interpreter) (w : World) :
    ((Turn.add text).perform (s, w)).1 = (s.add? text).getD s := by
  obtain ⟨hresult, -⟩ := add_yields s text w
  rcases hadded : s.add text w with ⟨result, w'⟩
  rw [hadded] at hresult
  subst hresult
  -- A fragment that is refused leaves the interpreter that there was.
  cases hadd : s.add? text <;> simp [Turn.perform, hadded, hadd]

/-- The turn that adds a fragment leaves the world that adding it leaves, accepted or not. -/
theorem snd_perform_add (text : String) (s : Interpreter) (w : World) :
    ((Turn.add text).perform (s, w)).2 = (s.add text w).2 := by
  rw [Turn.perform]
  rcases s.add text w with ⟨e | s', w'⟩ <;> rfl

/-- A turn empties a buffer or appends what it accepts. -/
theorem buffer_perform (turn : Turn) (state : Interpreter × World) :
    buffer (turn.perform state).1.draft kind =
      if turn.clears then [] else buffer state.1.draft kind ++ accepted kind [turn] := by
  obtain ⟨s, w⟩ := state
  cases turn with
  | add text =>
    rw [fst_perform_add, Interpreter.add?]
    cases hkind : FragmentKind.of? text with
    | none => simp [Turn.clears, Turn.fragment?, accepted, hkind]
    | some own =>
      cases own <;> cases kind <;>
        simp [Turn.clears, Turn.fragment?, accepted, hkind, buffer, Draft.addFragment,
          Draft.addImport, Draft.addStatement]
  | addImport text =>
    cases kind <;>
      simp [Turn.perform, Turn.clears, Turn.fragment?, accepted, Interpreter.addImport,
        Draft.addImport, buffer]
  | reset | run => cases kind <;> rfl
  | preview | setDirectory | elsewhere => exact (List.append_nil _).symm

/-- The fragments of two histories after each other are accepted after each other. -/
theorem accepted_append (turns more : List Turn) :
    accepted kind (turns ++ more) = accepted kind turns ++ accepted kind more :=
  List.filterMap_append

/-- The last turn comes last. -/
theorem performAll_concat (turns : List Turn) (turn : Turn) (state : Interpreter × World) :
    performAll (turns ++ [turn]) state = turn.perform (performAll turns state) :=
  List.foldl_concat ..

/-- What is pending changes with a turn as the buffer does. -/
theorem pending_concat :
    pending kind initial (turns ++ [turn]) =
      if turn.clears then [] else pending kind initial turns ++ accepted kind [turn] := by
  cases hclears : turn.clears with
  | true =>
    have hsince : sinceCleared (turns ++ [turn]) = [] :=
      List.rtakeWhile_concat_neg _ _ _ (by simp [hclears])
    simp [pending, hsince, hclears, accepted]
  | false =>
    have hsince : sinceCleared (turns ++ [turn]) = sinceCleared turns ++ [turn] :=
      List.rtakeWhile_concat_pos _ _ _ (by simp [hclears])
    simp [pending, hsince, hclears, accepted_append]

/-- The buffers hold what is pending. -/
theorem buffer_performAll (turns : List Turn) (state : Interpreter × World) :
    buffer (performAll turns state).1.draft kind =
      pending kind (buffer state.1.draft kind) turns := by
  -- What is pending depends on the last turn first, so the induction takes turns off the end.
  induction turns using List.reverseRecOn with
  | nil => simp [performAll, pending, accepted, sinceCleared]
  | append_singleton turns turn ih => rw [performAll_concat, buffer_perform, ih, pending_concat]

/-- What was taken and what is left are together what was there and what was accepted. -/
theorem taken_append_buffer (turns : List Turn) (state : Interpreter × World) :
    (taken turns state).flatMap (buffer ·.2 kind) ++ buffer (performAll turns state).1.draft kind =
      buffer state.1.draft kind ++ accepted kind turns := by
  induction turns generalizing state with
  | nil => simp [taken, performAll, accepted]
  | cons turn turns ih =>
    have hperform : performAll (turn :: turns) state = performAll turns (turn.perform state) := rfl
    have haccepted := accepted_append kind [turn] turns
    rw [List.singleton_append] at haccepted
    have hbuffer := buffer_perform kind turn state
    rw [hperform, taken, haccepted]
    cases hclears : turn.clears with
    | true =>
      -- What the turn empties the buffer of is the first draft taken, and it accepts nothing.
      have hnone : accepted kind [turn] = [] := by
        cases turn <;> first | rfl | cases hclears
      simp only [hclears, if_true] at hbuffer ⊢
      rw [List.flatMap_cons, List.append_assoc, ih, hbuffer, hnone]
    | false =>
      simp only [hclears, Bool.false_eq_true, if_false] at hbuffer ⊢
      rw [ih, hbuffer, List.append_assoc]

/-- Every turn that empties the buffers takes one draft. -/
theorem map_fst_taken (turns : List Turn) (state : Interpreter × World) :
    (taken turns state).map Prod.fst = turns.filter Turn.clears := by
  induction turns generalizing state with
  | nil => rfl
  | cons turn turns ih =>
    cases hclears : turn.clears <;> simp [taken, hclears, ih]

end

/-- After any history, whatever its runs came to, the buffers hold exactly what was accepted since
they were last emptied, in order, and nothing else. The next run writes this out as its unit, which
is also what a preview shows, or it cannot write its unit, and writes nothing at all; it leaves the
buffers empty in either case.
Over the history, each run and each reset takes one draft, and these drafts and what is left hold
every fragment that was there or was accepted, once and in order. -/
theorem fragments_accounted_for (turns : List Turn) (s : Interpreter) (w : World) :
    let now := performAll turns (s, w)
    let imports := pending .imported s.draft.imports turns
    let statements := pending .statement s.draft.statements turns
    let unit := String.join imports ++ preamble ++ guardOpen ++ String.join statements ++ guardClose
    now.1.draft = { imports, statements } ∧ now.1.draft.render = unit ∧
    ((now.1.run now.2).2.2.files.content now.1.build.unitSource = .ok (.text unit) ∨
      (∃ e, Unwritten now.1 now.2 e ∧ (now.1.run now.2).1 = .error (.build (.io e))) ∧
        (now.1.run now.2).2.2.files = now.2.files ∧ runActions now.1 now.2 = []) ∧
    (now.1.run now.2).2.1.draft = .empty ∧
    (taken turns (s, w)).flatMap (·.2.imports) ++ now.1.draft.imports =
      s.draft.imports ++ accepted .imported turns ∧
    (taken turns (s, w)).flatMap (·.2.statements) ++ now.1.draft.statements =
      s.draft.statements ++ accepted .statement turns ∧
    (taken turns (s, w)).map Prod.fst = turns.filter Turn.clears := by
  intro now imports statements unit
  have hdraft : now.1.draft = { imports, statements } := by
    have himports : now.1.draft.imports = imports := buffer_performAll .imported ..
    have hstatements : now.1.draft.statements = statements :=
      buffer_performAll .statement ..
    rw [← himports, ← hstatements]
  have hrender : now.1.draft.render = unit := by rw [hdraft]; rfl
  -- The run is one of `Ends`, and each of its rules writes the unit or nothing.
  refine ⟨hdraft, hrender, ?_, rfl, taken_append_buffer .imported turns (s, w),
    taken_append_buffer .statement turns (s, w), map_fst_taken turns (s, w)⟩
  rw [← hrender]
  exact run_source_or_nothing now.1 now.2

end FragmentRunner.Run
