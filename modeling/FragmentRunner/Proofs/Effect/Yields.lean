import FragmentRunner.World

/-!
# What an effect comes to

Most of what a run records is said to the user or to the log. The rest are its actions, the programs
started and the entry points called, and together with the result and the files they are what a run
comes to. `Effect.Yields` states all three of an effect in a world, whatever was logged, and is
closed under the ways in which effects are put together: that is how the run of a whole pipeline is
read off its stages.
-/

namespace FragmentRunner

/-- Whether an event starts a program or calls an entry point. -/
def Event.isAction : Event → Bool
  | .started _ | .called _ => true
  | .logged .. | .printed _ | .reported _ => false

/-- The programs started and the entry points called in a history, in order. -/
def Event.actions (history : List Event) : List Event :=
  history.filter isAction

/-- The programs that were started are among the actions. -/
theorem Event.startedPrograms_actions (history : List Event) :
    startedPrograms (actions history) = startedPrograms history := by
  rw [startedPrograms, actions, List.filterMap_filter, startedPrograms]
  congr 1
  funext event
  cases event <;> rfl

/-- `w'` is `w` after the actions `acts` with the files `fs`; what was logged or printed in between
does not count. -/
structure World.Becomes (w : World) (fs : FileSystem) (acts : List Event) (w' : World) : Prop where
  files : w'.files = fs
  environment : w'.environment = w.environment
  plans : w'.plans = w.plans
  actions : Event.actions w'.history = Event.actions w.history ++ acts

namespace World.Becomes

variable {w w' w'' : World} {fs fs' : FileSystem} {acts acts' : List Event}

/-- Other files are not an action. -/
theorem of_files (w : World) (fs : FileSystem) : w.Becomes fs [] { w with files := fs } where
  files := rfl
  environment := rfl
  plans := rfl
  actions := (List.append_nil _).symm

/-- Nothing happened. -/
theorem refl (w : World) : w.Becomes w.files [] w :=
  of_files w w.files

/-- Actions that follow each other are joined. -/
theorem trans (h : w.Becomes fs acts w') (h' : w'.Becomes fs' acts' w'') :
    w.Becomes fs' (acts ++ acts') w'' where
  files := h'.files
  environment := h'.environment.trans h.environment
  plans := h'.plans.trans h.plans
  actions := by rw [h'.actions, h.actions, List.append_assoc]

/-- Where no program was started the next compiler is the same. -/
theorem compiler (h : w.Becomes fs [] w') : w'.compiler = w.compiler := by
  rw [World.compiler, World.compiler, h.plans, ← Event.startedPrograms_actions w'.history,
    h.actions, List.append_nil, Event.startedPrograms_actions]

/-- A world determines the files and the actions by which it was reached. -/
theorem unique (h : w.Becomes fs acts w') (h' : w.Becomes fs' acts' w') :
    fs = fs' ∧ acts = acts' :=
  ⟨h.files.symm.trans h'.files, List.append_cancel_left (h.actions.symm.trans h'.actions)⟩

end World.Becomes

namespace Effect

variable {ε ε' α β : Type}

/-- In the world `w` the effect `x` comes to `r`, and leaves the files `fs` after the actions
`acts`. -/
def Yields (x : Effect ε α) (w : World) (r : Except ε α) (fs : FileSystem) (acts : List Event) :
    Prop :=
  (x w).1 = r ∧ w.Becomes fs acts (x w).2

namespace Yields

variable {x : Effect ε α} {f : α → Effect ε β} {w : World} {fs fs' : FileSystem}
  {acts acts' : List Event}

/-- An effect comes to one thing only. -/
theorem unique {r r' : Except ε α} (h : x.Yields w r fs acts) (h' : x.Yields w r' fs' acts') :
    r = r' ∧ fs = fs' ∧ acts = acts' :=
  ⟨h.1.symm.trans h'.1, h.2.unique h'.2⟩

/-- What an effect comes to is read off the world that it leaves. -/
theorem of_eq {w' : World} {r : Except ε α} (h : x w = (r, w')) (hw : w.Becomes fs acts w') :
    x.Yields w r fs acts := by
  rw [Yields, h]
  exact ⟨rfl, hw⟩

/-- An effect that does the same in a world comes to the same there. -/
theorem congr {y : Effect ε α} {r : Except ε α} (h : x.Yields w r fs acts) (heq : x w = y w) :
    y.Yields w r fs acts := by
  rwa [Yields, ← heq]

theorem pure (a : α) (w : World) : (Pure.pure a : Effect ε α).Yields w (.ok a) w.files [] :=
  ⟨rfl, .refl w⟩

theorem fail (e : ε) (w : World) : (Effect.fail e : Effect ε α).Yields w (.error e) w.files [] :=
  ⟨rfl, .refl w⟩

theorem ask (read : World → α) (w : World) :
    (Effect.ask read : Effect ε α).Yields w (.ok (read w)) w.files [] :=
  ⟨rfl, .refl w⟩

theorem record (event : Event) (w : World) :
    (Effect.record event : Effect ε Unit).Yields w (.ok ()) w.files (Event.actions [event]) :=
  ⟨rfl, rfl, rfl, rfl, List.filter_append ..⟩

theorem debug (message : String) (w : World) :
    (Effect.debug message : Effect ε Unit).Yields w (.ok ()) w.files [] :=
  record (.logged .debug message) w

theorem info (message : String) (w : World) :
    (Effect.info message : Effect ε Unit).Yields w (.ok ()) w.files [] :=
  record (.logged .info message) w

theorem report (text : String) (w : World) :
    (Effect.report text : Effect ε Unit).Yields w (.ok ()) w.files [] :=
  record (.reported text) w

theorem ofExcept (r : Except ε α) (w : World) : (Effect.ofExcept r).Yields w r w.files [] :=
  ⟨rfl, .refl w⟩

/-- What follows an effect that returned goes on from the world that it left. -/
theorem bind {a : α} {r : Except ε β} (hx : x.Yields w (.ok a) fs acts)
    (hf : ∀ w', w.Becomes fs acts w' → (f a).Yields w' r fs' acts') :
    (x >>= f).Yields w r fs' (acts ++ acts') := by
  obtain ⟨hresult, hworld⟩ := hx
  obtain ⟨hresult', hworld'⟩ := hf _ hworld
  have hbind : (x >>= f) w = f a (x w).2 := bind_of_ok (Prod.ext hresult rfl)
  exact of_eq (hbind.trans (Prod.ext hresult' rfl)) (hworld.trans hworld')

/-- The actions are those of what follows if an effect has none. -/
theorem bind_quiet {a : α} {r : Except ε β} (hx : x.Yields w (.ok a) fs [])
    (hf : ∀ w', w.Becomes fs [] w' → (f a).Yields w' r fs' acts) : (x >>= f).Yields w r fs' acts :=
  .bind hx hf

/-- The actions are those of the effect if what follows has none. -/
theorem bind_last {a : α} {r : Except ε β} (hx : x.Yields w (.ok a) fs acts)
    (hf : ∀ w', w.Becomes fs acts w' → (f a).Yields w' r fs' []) : (x >>= f).Yields w r fs' acts :=
  List.append_nil acts ▸ .bind hx hf

/-- Nothing follows an effect that failed. -/
theorem bind_error {e : ε} (hx : x.Yields w (.error e) fs acts) :
    (x >>= f).Yields w (.error e) fs acts := by
  obtain ⟨hresult, hworld⟩ := hx
  have hbind : (x >>= f) w = (.error e, (x w).2) := bind_of_error (Prod.ext hresult rfl)
  exact of_eq hbind hworld

/-- A value that is passed on after a report. -/
theorem report_pure (text : String) (a : α) (w : World) :
    (Effect.report text >>= fun _ => Pure.pure a : Effect ε α).Yields w (.ok a) w.files [] := by
  refine .bind_quiet (.report text w) fun w' hw' => ?_
  rw [← hw'.files]
  exact .pure a w'

/-- An effect whose value is only passed on fails with the failures of that effect. -/
theorem map {r : Except ε α} (g : α → β) (hx : x.Yields w r fs acts) :
    (x >>= fun a => Pure.pure (g a)).Yields w (r.map g) fs acts := by
  cases r with
  | error e => exact .bind_error hx
  | ok a =>
    exact .bind_last hx fun w' hw' => by
      rw [← hw'.files]
      exact .pure _ w'

/-- An effect that first leaves the world `w'` and then does what `y` does. This is for an effect
that goes on in the same way after a value and after a failure, which `bind` does not. -/
theorem after {w' : World} {y : Effect ε α} {r : Except ε α} (hw : w.Becomes fs acts w')
    (heq : x w = y w') (hy : y.Yields w' r fs' acts') : x.Yields w r fs' (acts ++ acts') :=
  of_eq (heq.trans (Prod.ext hy.1 rfl)) (hw.trans hy.2)

/-- Replacing the failures of an effect replaces no action. -/
theorem mapError {r : Except ε α} (wrap : ε → ε') (hx : x.Yields w r fs acts) :
    (Effect.mapError wrap x).Yields w (r.mapError wrap) fs acts := by
  obtain ⟨rfl, hworld⟩ := hx
  have hmap : Effect.mapError wrap x w = ((x w).1.mapError wrap, (x w).2) := by
    rw [Effect.mapError]
    rcases x w with ⟨r | a, w'⟩ <;> rfl
  exact of_eq hmap hworld

/-- An effect that is attempted comes to what it would come to otherwise, as a value. -/
theorem attempt {r : Except ε α} (hx : x.Yields w r fs acts) :
    (Effect.attempt x : Effect ε' (Except ε α)).Yields w (.ok r) fs acts :=
  ⟨congrArg Except.ok hx.1, hx.2⟩

/-- A change of the files that succeeds is no action. -/
theorem change {operation : FileSystem → Except IoError FileSystem}
    (h : operation w.files = .ok fs) : (Effect.change operation).Yields w (.ok ()) fs [] := by
  have hchange : Effect.change operation w = (.ok (), { w with files := fs }) := by
    simp [Effect.change, h]
  exact of_eq hchange (.of_files w fs)

/-- A change of the files that fails leaves them as they are. -/
theorem change_error {operation : FileSystem → Except IoError FileSystem} {e : IoError}
    (h : operation w.files = .error e) :
    (Effect.change operation).Yields w (.error e) w.files [] := by
  have hchange : Effect.change operation w = (.error e, w) := by simp [Effect.change, h]
  exact of_eq hchange (.refl w)

/-- A change of the files that may fail halfway is no action. -/
theorem changeAnyway {operation : FileSystem → FileSystem × Except IoError Unit}
    {r : Except IoError Unit} (h : operation w.files = (fs, r)) :
    (Effect.changeAnyway operation).Yields w r fs [] := by
  have hchange : Effect.changeAnyway operation w = (r, { w with files := fs }) := by
    simp [Effect.changeAnyway, h]
  exact of_eq hchange (.of_files w fs)

end Yields

end Effect

end FragmentRunner
