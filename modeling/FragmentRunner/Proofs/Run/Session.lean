import FragmentRunner.Proofs.Run.Messages

/-!
# Sessions

A session is what happens to one interpreter, turn by turn, with nothing but logging and printing in
between. `Session` lists the states in which its runs begin. Whoever works with an interpreter goes
on with its session, which is stated for effects as `Effect.InSession` and closed under the ways in
which effects are put together.

* `Session.toolchain_eq` and `Session.environment_eq`: neither changes in a session.
* `Session.actions_eq`: the actions of a session are those of its runs.
* `InSession.bind`: effects that go on with a session one after the other.
-/

namespace FragmentRunner

/-! ## Effects that only log and print -/

namespace Effect

variable {ε ε' α β : Type}

/-- In any world the effect does no more than log and print. -/
def Quiet (x : Effect ε α) : Prop :=
  ∀ w : World, w.Alike (x w).2

namespace Quiet

theorem pure (a : α) : (Pure.pure a : Effect ε α).Quiet :=
  fun w => .refl w

theorem fail (e : ε) : (Effect.fail e : Effect ε α).Quiet :=
  fun w => .refl w

theorem ask (read : World → α) : (Effect.ask read : Effect ε α).Quiet :=
  fun w => .refl w

theorem print (text : String) : (Effect.print text : Effect ε Unit).Quiet :=
  fun w => (World.Prints.record (.printed text) rfl w).toBecomes

theorem report (text : String) : (Effect.report text : Effect ε Unit).Quiet :=
  fun w => (World.Prints.record (.reported text) rfl w).toBecomes

theorem debug (message : String) : (Effect.debug message : Effect ε Unit).Quiet :=
  fun w => (World.Prints.record (.logged .debug message) rfl w).toBecomes

/-- What follows a quiet effect goes on from a world that is alike. -/
theorem bind {x : Effect ε α} {f : α → Effect ε β} (hx : x.Quiet) (hf : ∀ a, (f a).Quiet) :
    (x >>= f).Quiet := by
  intro w
  have hfirst := hx w
  rcases hresult : x w with ⟨e | a, mid⟩
  · rw [hresult] at hfirst
    rw [bind_of_error hresult]
    exact hfirst
  · rw [hresult] at hfirst
    rw [bind_of_ok hresult]
    exact hfirst.trans (hf a mid)

/-- Replacing the failures of an effect does nothing. -/
theorem mapError {x : Effect ε α} (wrap : ε → ε') (hx : x.Quiet) :
    (Effect.mapError wrap x).Quiet := by
  intro w
  have hsame := hx w
  rw [Effect.mapError]
  rcases hresult : x w with ⟨e | a, mid⟩ <;> rwa [hresult] at hsame

end Quiet

end Effect

namespace Run

/-! ## Sessions -/

variable {start state : Interpreter × World} {runs : List (Interpreter × World)} {s s' : Interpreter}
  {w w' : World}

/-- What can happen to an interpreter from `start` on: turns, and between them whatever is no more
than logging and printing. The states in which its runs begin are listed in order. -/
inductive Session (start : Interpreter × World) :
    List (Interpreter × World) → Interpreter × World → Prop
  | begin : Session start [] start
  | turn {runs : List (Interpreter × World)} {state : Interpreter × World} {turn : Turn}
      (hrun : turn ≠ .run) (helsewhere : ∀ v, turn ≠ .elsewhere v)
      (h : Session start runs state) : Session start runs (turn.perform state)
  | run {runs : List (Interpreter × World)} {state : Interpreter × World}
      (h : Session start runs state) : Session start (runs ++ [state]) (Turn.run.perform state)
  | aside {runs : List (Interpreter × World)} {s : Interpreter} {w w' : World} (hw : w.Alike w')
      (h : Session start runs (s, w)) : Session start runs (s, w')

/-- A turn does not change how the interpreter compiles. -/
theorem Turn.perform_toolchain (turn : Turn) (state : Interpreter × World) :
    (turn.perform state).1.build.toolchain = state.1.build.toolchain := by
  obtain ⟨s, w⟩ := state
  cases turn with
  | add text =>
    rw [fst_perform_add, Interpreter.add?]
    cases FragmentKind.of? text <;> rfl
  | addImport | reset | run | preview | setDirectory | elsewhere => rfl

/-- A turn that is no run takes no action. -/
theorem Turn.perform_actions {turn : Turn} (hrun : turn ≠ .run)
    (helsewhere : ∀ v, turn ≠ .elsewhere v) (state : Interpreter × World) :
    Event.actions (turn.perform state).2.history = Event.actions state.2.history := by
  obtain ⟨s, w⟩ := state
  cases turn with
  | add text =>
    rw [snd_perform_add, (add_yields s text w).2.actions, List.append_nil]
  | run => exact absurd rfl hrun
  | elsewhere v => exact absurd rfl (helsewhere v)
  | addImport | reset | preview | setDirectory => rfl

namespace Session

/-- Every turn goes on with a session, unless it replaces the world. -/
theorem exists_perform (h : Session start runs state) (turn : Turn)
    (helsewhere : ∀ v, turn ≠ .elsewhere v) :
    ∃ runs', Session start runs' (turn.perform state) := by
  by_cases hrun : turn = .run
  · subst hrun
    exact ⟨_, .run h⟩
  · exact ⟨runs, .turn hrun helsewhere h⟩

/-- What holds at the start and is kept by every turn, and by logging and printing, holds at the end
of a session and wherever a run begins in it. -/
theorem preserves {P : Interpreter × World → Prop} (h : Session start runs state)
    (hturn : ∀ (turn : Turn) state, (∀ v, turn ≠ .elsewhere v) → P state → P (turn.perform state))
    (haside : ∀ s w w', w.Alike w' → P (s, w) → P (s, w')) (hstart : P start) :
    P state ∧ ∀ state ∈ runs, P state := by
  induction h with
  | begin => exact ⟨hstart, by simp⟩
  | turn hrun helsewhere h ih => exact ⟨hturn _ _ helsewhere ih.1, ih.2⟩
  | run h ih =>
    refine ⟨hturn _ _ (by simp) ih.1, fun state hmem => ?_⟩
    rcases List.mem_append.mp hmem with hearlier | hlast
    · exact ih.2 state hearlier
    · exact List.mem_singleton.mp hlast ▸ ih.1
  | aside hw h ih => exact ⟨haside _ _ _ hw ih.1, ih.2⟩

/-- Every run of a session compiles as the interpreter did at its start. -/
theorem toolchain_eq (h : Session start runs state) :
    ∀ state ∈ runs, state.1.build.toolchain = start.1.build.toolchain :=
  (h.preserves (P := fun state => state.1.build.toolchain = start.1.build.toolchain)
    (fun turn state _ hstate => (turn.perform_toolchain state).trans hstate)
    (fun _ _ _ _ hstate => hstate) rfl).2

/-- Every run of a session finds the environment that the session began with. -/
theorem environment_eq (h : Session start runs state) :
    ∀ state ∈ runs, state.2.environment = start.2.environment :=
  (h.preserves (P := fun state => state.2.environment = start.2.environment)
    (fun _ state helsewhere hstate =>
      (Turn.perform_environment helsewhere state.1 state.2).trans hstate)
    (fun _ _ _ hw hstate => hw.environment.trans hstate) rfl).2

/-- The actions of a session are those of its runs, in order. -/
theorem actions_eq (h : Session start runs state) : Event.actions state.2.history =
    Event.actions start.2.history ++ runs.flatMap fun state => runActions state.1 state.2 := by
  induction h with
  | begin => simp
  | turn hrun helsewhere h ih => rw [Turn.perform_actions hrun helsewhere, ih]
  | @run runs state h ih =>
    obtain ⟨fs, acts, -, hworld⟩ := exists_runEnds state.1 state.2
    have hactions : Event.actions (Turn.run.perform state).2.history =
        Event.actions state.2.history ++ acts := hworld.actions
    rw [hactions, ih, List.flatMap_append, List.flatMap_singleton, runActions_eq hworld,
      List.append_assoc]
  | aside hw h ih => rw [hw.actions, List.append_nil, ih]

end Session

end Run

/-! ## Effects in a session -/

namespace Effect

open Run

variable {ε ε' α β : Type} {start : Interpreter × World} {s : Interpreter}

/-- In a session that began at `start` and has come to the interpreter `s`, the effect goes on with
the session; with what it returns goes an interpreter to which the session has come then. -/
def InSession (start : Interpreter × World) (s : Interpreter) (x : Effect ε α)
    (ends : α → Interpreter → Prop) : Prop :=
  ∀ runs w, Session start runs (s, w) → ∃ runs' s', Session start runs' (s', (x w).2) ∧
    ∀ a, (x w).1 = .ok a → ends a s'

namespace InSession

variable {x : Effect ε α} {ends : α → Interpreter → Prop}

/-- Logging and printing go on with a session. -/
theorem quiet (hx : x.Quiet) : InSession start s x fun _ s' => s' = s :=
  fun runs w h => ⟨runs, s, .aside (hx w) h, fun _ _ => rfl⟩

/-- A value that goes with the interpreter is passed on. -/
theorem pure {a : α} (ha : ends a s) : InSession start s (Pure.pure a : Effect ε α) ends := by
  intro runs w h
  refine ⟨runs, s, h, fun b hb => ?_⟩
  obtain rfl : a = b := Except.ok.inj hb
  exact ha

/-- A failure goes on with a session and returns nothing. -/
theorem fail (e : ε) : InSession start s (Effect.fail e : Effect ε α) ends :=
  fun runs _ h => ⟨runs, s, h, fun _ hresult => by cases hresult⟩

/-- What follows an effect goes on where that has left the session. -/
theorem bind {f : α → Effect ε β} {ends' : β → Interpreter → Prop}
    (hx : InSession start s x ends)
    (hf : ∀ a s', ends a s' → InSession start s' (f a) ends') :
    InSession start s (x >>= f) ends' := by
  intro runs w h
  obtain ⟨runs', s', hsession, hends⟩ := hx runs w h
  rcases hresult : x w with ⟨e | a, mid⟩
  · rw [hresult] at hsession
    rw [bind_of_error hresult]
    exact ⟨runs', s', hsession, fun _ hfailed => by cases hfailed⟩
  · rw [hresult] at hsession hends
    rw [bind_of_ok hresult]
    exact hf a s' (hends a rfl) runs' mid hsession

/-- What follows logging and printing goes on where the session was. -/
theorem quiet_bind {f : α → Effect ε β} {ends' : β → Interpreter → Prop} (hx : x.Quiet)
    (hf : ∀ a, InSession start s (f a) ends') : InSession start s (x >>= f) ends' :=
  bind (quiet hx) fun a _ hsame => hsame ▸ hf a

/-- Replacing the failures of an effect makes no difference to a session. -/
theorem mapError (wrap : ε → ε') (hx : InSession start s x ends) :
    InSession start s (Effect.mapError wrap x) ends := by
  intro runs w h
  obtain ⟨runs', s', hsession, hends⟩ := hx runs w h
  rw [Effect.mapError]
  rcases hresult : x w with ⟨e | a, mid⟩ <;> rw [hresult] at hsession hends
  · exact ⟨runs', s', hsession, fun _ hfailed => by cases hfailed⟩
  · exact ⟨runs', s', hsession, fun b hb => hends b (congrArg _ (Except.ok.inj hb))⟩

/-- An effect that is attempted goes on with a session as it would otherwise. -/
theorem attempt (hx : InSession start s x ends) :
    InSession start s (Effect.attempt x : Effect ε' (Except ε α)) fun r s' =>
      ∀ a, r = .ok a → ends a s' := by
  intro runs w h
  obtain ⟨runs', s', hsession, hends⟩ := hx runs w h
  refine ⟨runs', s', hsession, fun r hr a ha => hends a ?_⟩
  exact (Except.ok.inj hr).trans ha

end InSession

end Effect

end FragmentRunner
