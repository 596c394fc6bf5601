import FragmentRunner.Interpreter

/-!
# Sharing an interpreter

Several handles on one interpreter. A call through a handle holds the interpreter for its whole
duration, so the calls of all handles happen one after another, and what one handle does every
other sees. A handle carries no state of its own.
-/

namespace FragmentRunner

/-- An interpreter with a number of handles on it. -/
structure SharedInterpreter where
  interpreter : Interpreter
  handles : Nat

namespace SharedInterpreter

/-- An interpreter with one handle. -/
def new (interpreter : Interpreter) : SharedInterpreter :=
  { interpreter, handles := 1 }

/-- Whether there is a handle of the given number. -/
def hasHandle (shared : SharedInterpreter) (handle : Nat) : Bool :=
  handle < shared.handles

/-- One more handle on the same interpreter. -/
def clone (shared : SharedInterpreter) : SharedInterpreter :=
  { shared with handles := shared.handles + 1 }

/-- A call that has the interpreter to itself. -/
def withInterpreter {α : Type} (shared : SharedInterpreter) (w : World)
    (call : Interpreter → World → α × Interpreter × World) : α × SharedInterpreter × World :=
  let (result, interpreter, w) := call shared.interpreter w
  (result, { shared with interpreter }, w)

/-- The call that adds a fragment. -/
def add (text : String) (s : Interpreter) (w : World) :
    Except InterpreterError Unit × Interpreter × World :=
  match s.add text w with
  | (.ok s, w) => (.ok (), s, w)
  | (.error e, w) => (.error e, s, w)

/-- Adds a fragment a number of times; returns how many times it was accepted. -/
def addRepeatedly (text : String) : Nat → Interpreter → World → Nat × Interpreter × World
  | 0, s, w => (0, s, w)
  | n + 1, s, w =>
    let (result, s, w) := add text s w
    let (accepted, s, w) := addRepeatedly text n s w
    (if result.isOk then accepted + 1 else accepted, s, w)

end SharedInterpreter

end FragmentRunner
