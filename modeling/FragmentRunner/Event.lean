import FragmentRunner.Text.Quoted

/-!
# What can be observed of a run

Besides the files that it changes, a run can be observed by the programs that it starts, the entry
points that it calls, the messages that it logs and the text that it prints. Each is an event, and
a history of events is kept in order.

Log messages share standard error with the text written there. `standardError` is what a reader of
that stream sees, given the least severe level that is logged.
-/

namespace FragmentRunner

/-- How severe a logged message is. -/
inductive Severity
  | debug
  | info
  | warn
  | error
deriving DecidableEq

namespace Severity

/-- The name of a level in the log. -/
def name : Severity → String
  | .debug => "DEBUG"
  | .info => "INFO"
  | .warn => "WARN"
  | .error => "ERROR"

/-- The rank of a level; more severe levels rank higher. -/
def rank : Severity → Nat
  | .debug => 0
  | .info => 1
  | .warn => 2
  | .error => 3

/-- The name of a level in a column of five characters, at the right. -/
def column (level : Severity) : String :=
  String.ofList (List.replicate (5 - level.name.length) ' ') ++ level.name

end Severity

/-- Something that a run did and that can be observed. -/
inductive Event
  /-- A program was started with these arguments, its own name first. -/
  | started (arguments : List String)
  /-- An entry point of a loaded unit was called. -/
  | called (symbol : String)
  /-- A message was logged, if its level is logged at all. -/
  | logged (level : Severity) (message : String)
  /-- Text went to standard output. -/
  | printed (text : String)
  /-- Text went to standard error. -/
  | reported (text : String)
deriving DecidableEq

namespace Event

/-- The line that a logged message takes in the log. -/
def logLine (level : Severity) (message : String) : String :=
  level.column ++ " " ++ String.ofList (Text.escapeControls message.toList) ++ "\n"

/-- What an event adds to standard output. -/
def outputText : Event → String
  | .printed text => text
  | _ => ""

/-- What an event adds to standard error when messages below `threshold` are not logged. -/
def errorText (threshold : Severity) : Event → String
  | .reported text => text
  | .logged level message =>
    if threshold.rank ≤ level.rank then logLine level message else ""
  | _ => ""

/-- The text on standard output after a history. -/
def standardOutput (history : List Event) : String :=
  String.join (history.map outputText)

/-- The text on standard error after a history. -/
def standardError (threshold : Severity) (history : List Event) : String :=
  String.join (history.map (errorText threshold))

/-- The argument lists of the programs that were started, in order. -/
def startedPrograms (history : List Event) : List (List String) :=
  history.filterMap fun
    | .started arguments => some arguments
    | _ => none

/-- The entry points that were called, in order. -/
def calledSymbols (history : List Event) : List String :=
  history.filterMap fun
    | .called symbol => some symbol
    | _ => none

end Event

end FragmentRunner
