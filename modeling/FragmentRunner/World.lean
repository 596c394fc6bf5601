import FragmentRunner.Compiler
import FragmentRunner.Environment
import FragmentRunner.Event

/-!
# The world of a run and the effects on it

A `World` holds what a run can depend on and change: files, environment variables, what becomes of
the compilers that are started, and the history of what has been observed so far. An `Effect` reads
and changes the world and either returns a value or fails; a failing effect keeps what it did before
it failed.

Each start of a compiler has a plan of its own, so a compiler may refuse a unit once and accept it
the next time. The plans are numbered by the starts and not by what a compiler goes by: whatever
that is, the command, the source or the hour, along any one run of the program it gives one plan for
each start, in some order. A statement about every world is therefore one about every compiler.
-/

namespace FragmentRunner

/-- What a run can depend on and change. -/
structure World where
  files : FileSystem
  environment : Environment
  /-- What each compiler does, by how many programs were started before it. -/
  plans : Nat → CompilerPlan
  history : List Event

/-- What the next compiler does that is started. -/
def World.compiler (w : World) : CompilerPlan :=
  w.plans (Event.startedPrograms w.history).length

/-- A step that changes the world and returns a value or fails. -/
def Effect (ε α : Type) : Type := World → Except ε α × World

namespace Effect

variable {ε ε' α β : Type}

/-- The effect that does nothing and returns `a`. -/
protected def pure (a : α) : Effect ε α := fun w => (.ok a, w)

/-- The effect that goes on with what `x` returned, unless `x` failed. -/
protected def bind (x : Effect ε α) (f : α → Effect ε β) : Effect ε β := fun w =>
  match x w with
  | (.ok a, w) => f a w
  | (.error e, w) => (.error e, w)

instance : Monad (Effect ε) where
  pure := Effect.pure
  bind := Effect.bind

/-- The effect that does nothing and fails. -/
def fail (e : ε) : Effect ε α := fun w => (.error e, w)

/-- What `read` finds in the world. -/
def ask (read : World → α) : Effect ε α := fun w => (.ok (read w), w)

/-- The effect with its failures replaced. -/
def mapError (wrap : ε → ε') (x : Effect ε α) : Effect ε' α := fun w =>
  match x w with
  | (.ok a, w) => (.ok a, w)
  | (.error e, w) => (.error (wrap e), w)

/-- What `x` comes to, whether it fails or not; this does not fail. -/
def attempt (x : Effect ε α) : Effect ε' (Except ε α) := fun w =>
  (.ok (x w).1, (x w).2)

/-- What a computation without effects returned. -/
def ofExcept (x : Except ε α) : Effect ε α := fun w => (x, w)

/-- Adds an event to the history. -/
def record (event : Event) : Effect ε Unit := fun w =>
  (.ok (), { w with history := w.history ++ [event] })

/-- Logs a message of interest to those who look for a fault. -/
def debug (message : String) : Effect ε Unit := record (.logged .debug message)

/-- Logs a message of general interest. -/
def info (message : String) : Effect ε Unit := record (.logged .info message)

/-- Logs a message about something that should not be. -/
def warn (message : String) : Effect ε Unit := record (.logged .warn message)

/-- Writes text to standard output. -/
def print (text : String) : Effect ε Unit := record (.printed text)

/-- Writes text to standard error. -/
def report (text : String) : Effect ε Unit := record (.reported text)

/-- Changes the files, or fails and leaves them as they are. -/
def change (operation : FileSystem → Except IoError FileSystem) : Effect IoError Unit := fun w =>
  match operation w.files with
  | .ok files => (.ok (), { w with files })
  | .error e => (.error e, w)

/-- Changes the files, also when it fails. -/
def changeAnyway (operation : FileSystem → FileSystem × Except IoError Unit) :
    Effect IoError Unit := fun w =>
  ((operation w.files).2, { w with files := (operation w.files).1 })

theorem bind_apply (x : Effect ε α) (f : α → Effect ε β) (w : World) :
    (x >>= f) w = match x w with
      | (.ok a, w) => f a w
      | (.error e, w) => (.error e, w) := rfl

theorem bind_of_ok {x : Effect ε α} {f : α → Effect ε β} {w w' : World} {a : α}
    (h : x w = (.ok a, w')) : (x >>= f) w = f a w' := by
  rw [bind_apply, h]

theorem bind_of_error {x : Effect ε α} {f : α → Effect ε β} {w w' : World} {e : ε}
    (h : x w = (.error e, w')) : (x >>= f) w = (.error e, w') := by
  rw [bind_apply, h]

end Effect

end FragmentRunner
