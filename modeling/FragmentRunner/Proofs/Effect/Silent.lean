import FragmentRunner.World

/-!
# Effects that print nothing

Standard output belongs to those who talk to the user. An effect is `Silent` if it leaves that
alone, whatever it logs, starts or changes; effects that are put together of silent ones are
silent.
-/

namespace FragmentRunner

/-- Two histories, one after the other, show one text after the other. -/
theorem Event.standardOutput_append (history more : List Event) :
    Event.standardOutput (history ++ more) =
      Event.standardOutput history ++ Event.standardOutput more := by
  rw [standardOutput, List.map_append, String.join_append, standardOutput, standardOutput]

/-- One event shows its text. -/
theorem Event.standardOutput_singleton (event : Event) :
    Event.standardOutput [event] = event.outputText := by
  rw [standardOutput, List.map_singleton, String.join_cons, String.join_nil, String.append_empty]

/-- An event that prints nothing does not show on standard output. -/
theorem Event.standardOutput_concat_of_empty {event : Event} (h : event.outputText = "")
    (history : List Event) :
    Event.standardOutput (history ++ [event]) = Event.standardOutput history := by
  rw [standardOutput_append, standardOutput_singleton, h, String.append_empty]

namespace Effect

variable {ε ε' α β : Type}

/-- The effect writes nothing to standard output, in any world. -/
def Silent (x : Effect ε α) : Prop :=
  ∀ w, Event.standardOutput (x w).2.history = Event.standardOutput w.history

namespace Silent

/-- An effect that records nothing is silent, whatever it does to the files. -/
theorem of_history {x : Effect ε α} (h : ∀ w, (x w).2.history = w.history) : x.Silent :=
  fun w => congrArg Event.standardOutput (h w)

theorem pure (a : α) : (Pure.pure a : Effect ε α).Silent := fun _ => rfl

theorem fail (e : ε) : (Effect.fail e : Effect ε α).Silent := fun _ => rfl

theorem ask (read : World → α) : (Effect.ask read : Effect ε α).Silent := fun _ => rfl

theorem ofExcept (r : Except ε α) : (Effect.ofExcept r).Silent := fun _ => rfl

/-- What prints nothing may be recorded. -/
theorem record {event : Event} (h : event.outputText = "") :
    (Effect.record event : Effect ε Unit).Silent :=
  fun w => Event.standardOutput_concat_of_empty h w.history

theorem debug (message : String) : (Effect.debug message : Effect ε Unit).Silent := record rfl

theorem info (message : String) : (Effect.info message : Effect ε Unit).Silent := record rfl

theorem warn (message : String) : (Effect.warn message : Effect ε Unit).Silent := record rfl

/-- What follows a silent effect goes on from the same output. -/
theorem bind {x : Effect ε α} {f : α → Effect ε β} (hx : x.Silent) (hf : ∀ a, (f a).Silent) :
    (x >>= f).Silent := by
  intro w
  have hfirst := hx w
  rcases hresult : x w with ⟨e | a, mid⟩
  · rw [hresult] at hfirst
    rw [bind_of_error hresult]
    exact hfirst
  · rw [hresult] at hfirst
    rw [bind_of_ok hresult]
    exact (hf a mid).trans hfirst

/-- Replacing the failures of an effect prints nothing. -/
theorem mapError {x : Effect ε α} (wrap : ε → ε') (hx : x.Silent) :
    (Effect.mapError wrap x).Silent := by
  intro w
  have hsame := hx w
  rw [Effect.mapError]
  rcases hresult : x w with ⟨e | a, mid⟩ <;> rwa [hresult] at hsame

/-- An effect prints no more for being allowed to fail. -/
theorem attempt {x : Effect ε α} (hx : x.Silent) :
    (Effect.attempt x : Effect ε' (Except ε α)).Silent :=
  fun w => hx w

/-- Files are not output. -/
theorem change (operation : FileSystem → Except IoError FileSystem) :
    (Effect.change operation).Silent := by
  refine of_history fun w => ?_
  rw [Effect.change]
  cases operation w.files <;> rfl

theorem changeAnyway (operation : FileSystem → FileSystem × Except IoError Unit) :
    (Effect.changeAnyway operation).Silent :=
  fun _ => rfl

end Silent

end Effect

end FragmentRunner
