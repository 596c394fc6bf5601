import FragmentRunner.Interpreter
import FragmentRunner.LineCommand
import FragmentRunner.OutputDirectory

/-!
# Answering a line

The dialogue reads a line, has the interpreter do what the line asks for, and replies. A failure is
a reply like any other; only a line that asks to quit ends the dialogue.
-/

namespace FragmentRunner

/-- The reply to a line. -/
inductive Reply
  /-- The dialogue is over. -/
  | exit
  /-- There is nothing to say. -/
  | silence
  | message (text : String)
deriving DecidableEq

namespace Dialogue

/-- What the user can do, with examples. -/
def helpText : String :=
  "\n".intercalate [
    "Enter a Rust statement or a `use` declaration.",
    "No `return` statements or top-level items other than `use`/`extern crate`;",
    "local fns, structs and closures inside statements are fine.",
    "You can enter a `use` declaration at any point; it is moved to the top.",
    "Panics are caught for you and reported with their trace.",
    "Enter 'run' to run the statements, 'reset' to discard them, or 'quit' to quit.",
    "Other commands: :source (show the generated unit), :dir [PATH], :help.",
    "Note: all statements must be entered *before* running;",
    "after running, all statements are forgotten.",
    "",
    "Some examples:",
    "",
    "use std::collections::HashMap;",
    "let i = 0;",
    "if 2_i32.pow(2) == 4 \x7b println!(\"Equal\"); \x7d",
    "let mut i = 0; while i < 3 \x7b println!(\"Nice!\"); i += 1; \x7d",
    "struct Hello; impl Hello \x7b fn hello(&self) \x7b println!(\"Hello!\"); \x7d \x7d "
      ++ "Hello.hello();"]

/-- An error message, in red if colours are on. -/
def complaint (colors : Bool) (text : String) : Reply :=
  .message (if colors then "\x1b[31m" ++ text ++ "\x1b[39m" else text)

/-- What is said of a unit that the compiler refused. -/
def refusal (summary : Option String) (log : Path) : String :=
  summary.getD s!"Compilation failed; see {log}"

/-- The reply after a run. -/
def ofRun (colors : Bool) : Except InterpreterError Outcome → Reply
  | .ok (.executed .completed) => .silence
  | .ok (.executed .panicked) => complaint colors "A statement panicked; the trace is above."
  | .ok (.rejected summary log) => complaint colors (refusal summary log)
  | .error e => complaint colors ("Error: " ++ e.message)

/-- The reply that names the output directory. -/
def directoryReply (directory : Path) : Reply :=
  .message s!"Output directory: {directory}"

/-- Does what `command` asks for. -/
def perform (colors : Bool) (s : Interpreter) (w : World) :
    LineCommand → Reply × Interpreter × World
  | .empty => (.silence, s, w)
  | .quit => (.exit, s, w)
  | .reset => (.silence, s.reset, w)
  | .run =>
    let (result, s, w) := s.run w
    (ofRun colors result, s, w)
  | .help => (.message helpText, s, w)
  | .source => (.message s.draft.render, s, w)
  | .directory none => (directoryReply s.build.directory, s, w)
  | .directory (some path) =>
    match OutputDirectory.validate (.ofString path) w with
    | (.ok directory, w) => (directoryReply directory, s.setDirectory directory, w)
    | (.error e, w) => (complaint colors e.message, s, w)
  | .unknown line => (complaint colors ("Unknown command: " ++ line), s, w)
  | .fragment text =>
    match s.add text w with
    | (.ok s, w) => (.silence, s, w)
    | (.error e, w) => (complaint colors e.message, s, w)

/-- A line without the white space at both of its ends. -/
def trimLine (line : String) : String :=
  String.ofList (Text.trim line.toList)

/-- Answers one line. -/
def respond (colors : Bool) (line : String) (s : Interpreter) (w : World) :
    Reply × Interpreter × World :=
  perform colors s w (LineCommand.parse (trimLine line))

end Dialogue

end FragmentRunner
