import FragmentRunner.BuildDirectory
import FragmentRunner.Draft
import FragmentRunner.LoadedUnit

/-!
# The interpreter

An interpreter collects fragments in a draft. A run writes the draft out as one unit, compiles it,
loads the library and calls its entry point; whatever a run comes to, the draft is empty afterwards.
A unit that the compiler refuses is an outcome and no failure, and its summary is remembered until
the next run.

* `add?` and `addImport` put fragments into the draft, `reset` empties it.
* `execute` is what a run does to the world.
* `run` is a run of an interpreter.
-/

namespace FragmentRunner

/-- Why an interpreter refused a fragment or failed in a run. -/
inductive InterpreterError
  /-- A `return` statement was added. -/
  | returnStatement
  /-- The unit could not be written or compiled. -/
  | build (cause : BuildError)
  /-- The library could not be loaded. -/
  | load (cause : LoadError)
  /-- The entry point could not be called, or was not understood. -/
  | call (cause : CallError)
deriving DecidableEq

/-- The text that describes a failure. -/
def InterpreterError.message : InterpreterError → String
  | .returnStatement => "Invalid statement: No return statements allowed."
  | .build cause => cause.message
  | .load cause => cause.message
  | .call cause => cause.message

/-- What a run came to. -/
inductive Outcome
  /-- The unit was compiled and its entry point called. -/
  | executed (completion : Completion)
  /-- The compiler refused the unit; its diagnostics are in the log. -/
  | rejected (summary : Option String) (log : Path)
deriving DecidableEq

namespace Outcome

/-- Whether the unit was compiled and run, be it that a statement panicked. -/
def succeeded : Outcome → Bool
  | .executed _ => true
  | .rejected .. => false

/-- The summary of the compiler's diagnostics, if it refused the unit and there is one. -/
def diagnostic? : Outcome → Option String
  | .executed _ => none
  | .rejected summary _ => summary

end Outcome

/-- A collector of fragments with the directory that they are compiled in. -/
structure Interpreter where
  draft : Draft := .empty
  build : BuildDirectory
  /-- The summary of the last run's diagnostics, if the compiler refused its unit. -/
  lastDiagnostic : Option String := none
deriving DecidableEq

namespace Interpreter

/-- An interpreter without fragments. -/
def new (directory : Path) (toolchain : Toolchain) : Interpreter :=
  { build := { directory, toolchain } }

/-- The interpreter with one more fragment, unless the fragment is refused. -/
def add? (s : Interpreter) (text : String) : Option Interpreter :=
  (FragmentKind.of? text).map fun kind => { s with draft := s.draft.addFragment text kind }

/-- Adds a fragment; an import is logged. -/
def add (s : Interpreter) (text : String) : Effect InterpreterError Interpreter := do
  match s.add? text with
  | none => Effect.fail .returnStatement
  | some s =>
    if isImport text then Effect.debug ("Routing to imports: " ++ text)
    return s

/-- The interpreter with one more import, whatever its text. -/
def addImport (s : Interpreter) (text : String) : Interpreter :=
  { s with draft := s.draft.addImport text }

/-- Adds fragments in order, until one is refused. -/
def addAll (s : Interpreter) : List String → Effect InterpreterError Interpreter
  | [] => return s
  | text :: rest => do addAll (← s.add text) rest

/-- The interpreter without fragments. -/
def reset (s : Interpreter) : Interpreter :=
  { s with draft := .empty }

/-- The interpreter with another build directory. -/
def setDirectory (s : Interpreter) (directory : Path) : Interpreter :=
  { s with build := { s.build with directory } }

/-- Loads a compiled unit, calls its entry point and closes it again. -/
def executeLibrary (library : Path) : Effect InterpreterError Completion := do
  let unit ← Effect.mapError .load (LoadedUnit.load library unitName)
  fun w =>
    let (result, w) := Effect.mapError .call (unit.invoke entrySymbol) w
    match result with
    | .ok completion =>
      (do
        Effect.info s!"{unitName} finished: {completion.name}"
        unit.close
        return completion : Effect InterpreterError Completion) w
    -- The staging file is removed on this way out, too.
    | .error e => (do unit.close; Effect.fail e : Effect InterpreterError Completion) w

/-- Writes a draft out as a unit, compiles it, and if the compiler accepts it, runs it. -/
def execute (build : BuildDirectory) (draft : Draft) : Effect InterpreterError Outcome := do
  Effect.debug (s!"Rendering {draft.imports.length} imports and "
    ++ s!"{draft.statements.length} statements into {sourceFile}")
  let source ← Effect.mapError .build (build.writeSource (.ofString sourceFile) draft.render)
  let made ← Effect.mapError .build (build.compile source)
  -- The library is whatever is found at its path now.
  if made.succeeded then
    Effect.debug s!"Compiled {made.source} into {made.library}"
    return .executed (← executeLibrary made.library)
  else
    let summary ← build.lastSummary
    Effect.info ("Compile failed: " ++ summary.getD "no diagnostic")
    return .rejected summary made.log

/-- Compiles and runs the fragments of an interpreter. Afterwards it has none left, also when the
run failed, and remembers why the compiler refused the unit, if it did. -/
def run (s : Interpreter) (w : World) : Except InterpreterError Outcome × Interpreter × World :=
  let (result, w) := execute s.build s.draft w
  -- Whatever the result, nothing is kept of the draft and of an earlier diagnostic.
  let lastDiagnostic := match result with
    | .ok outcome => outcome.diagnostic?
    | .error _ => none
  (result, { s with draft := .empty, lastDiagnostic }, w)

end Interpreter

/-- Adds fragments to a new interpreter and runs them; tells whether the unit was run. -/
def runFragments (directory : Path) (fragments : List String) : Effect InterpreterError Bool := do
  let s ← (Interpreter.new directory {}).addAll fragments
  Effect.debug s!"Running {fragments.length} fragments"
  fun w =>
    let (result, s, w) := s.run w
    match result with
    | .error e => (.error e, w)
    | .ok outcome =>
      if outcome.succeeded then (.ok true, w)
      else Effect.bind
        (Effect.debug ("Compile failed: " ++ s.lastDiagnostic.getD "no diagnostic"))
        (fun _ => Effect.pure false) w

end FragmentRunner
