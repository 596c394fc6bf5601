import FragmentRunner.Interpreter
import FragmentRunner.OutputDirectory
import FragmentRunner.Settings

/-!
# Reports of failures

A failure that ends the program is reported with its causes, from the nearest one to the most
distant. A single cause is indented, several are numbered; further lines of a cause are aligned with
its first.

Every kind of failure in the library has its report, `failure`.
-/

namespace FragmentRunner

/-- A failure with its causes, the nearest first. -/
structure Failure where
  message : String
  causes : List String := []
deriving DecidableEq

namespace Failure

/-- The failure of a larger task, whose cause is `f`. -/
def within (task : String) (f : Failure) : Failure :=
  { message := task, causes := f.message :: f.causes }

/-- A text with `margin` in front of every line but the first. -/
def alignBelow (margin text : String) : String :=
  String.ofList
    (List.intercalate ('\n' :: margin.toList) (Text.pieces (· = '\n') text.toList))

/-- A number with a colon, at the right of seven columns. -/
def label (n : Nat) : String :=
  let digits := toString n
  String.ofList (List.replicate (5 - digits.length) ' ') ++ digits ++ ": "

/-- The lines that name the causes. -/
def causeLines : List String → List String
  | [] => []
  | [cause] => ["    " ++ alignBelow "    " cause]
  | causes => causes.zipIdx.map fun (cause, n) => label n ++ alignBelow "       " cause

/-- What is written to standard error about a failure. -/
def report (f : Failure) : String :=
  let causes := if f.causes.isEmpty then [] else ["", "Caused by:"] ++ causeLines f.causes
  "Error: " ++ "\n".intercalate (f.message :: causes) ++ "\n"

end Failure

/-- The report of a failure whose only cause is a failure of the operating system. -/
def IoError.failure (message : String) (cause : IoError) : Failure :=
  { message, causes := [cause.message] }

/-- The report of a failure to write or compile a unit. -/
def BuildError.failure (e : BuildError) : Failure :=
  match e with
  | .notFound _ => { message := e.message }
  | .notStarted _ cause | .io cause => cause.failure e.message

/-- The report of a failure to load a unit. -/
def LoadError.failure (e : LoadError) : Failure :=
  match e with
  | .missing _ => { message := e.message }
  | .notStaged cause => cause.failure e.message
  | .notOpened => { message := e.message, causes := [openFailure] }

/-- The report of a failure of an interpreter. -/
def InterpreterError.failure (e : InterpreterError) : Failure :=
  match e with
  | .build cause => cause.failure
  | .load cause => cause.failure
  | .returnStatement | .call _ => { message := e.message }

/-- The report of a path that is not fit for output. -/
def OutputDirectoryError.failure (e : OutputDirectoryError) : Failure :=
  match e with
  | .missing _ | .notADirectory _ => { message := e.message }
  | .notWritable _ cause => cause.failure e.message

/-- The report of settings that could not be read. -/
def SettingsError.failure (e : SettingsError) : Failure :=
  { message := e.message }

end FragmentRunner
