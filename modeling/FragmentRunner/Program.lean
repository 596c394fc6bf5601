import FragmentRunner.CommandLine
import FragmentRunner.Conversation
import FragmentRunner.Demo

/-!
# The program

The program reads its arguments and its settings and does what it is asked for. Arguments that
cannot be understood are answered with a hint and the status 2, before anything else is looked at;
any other failure ends the program with a report and the status 1.

The compiler is the one given on the command line, else the one that the environment names, else the
one in the settings. The output directory is the one given on the command line, else the one in the
settings; for want of both, the commands that talk to the user ask for one.

* `Program.perform` does what a command tells.
* `Program.run` is a run of the program, as seen from outside.
-/

namespace FragmentRunner.Program

/-- The name of the program in its own messages. -/
def name : String := "Runlet"

/-- The name of the program on the command line. -/
def commandName : String := "runlet"

/-- The version of the program. -/
def version : String := "0.1.0"

/-- The hint for those who gave arguments that cannot be understood. -/
def usage : String :=
  s!"Usage: {commandName} [OPTIONS] <COMMAND>\n\nFor more information, try '--help'.\n"

/-- The help on the command line. -/
def helpText : String :=
  "\n".intercalate [
    "Accumulate Rust statements, build them with rustc, load and run the result",
    "",
    s!"Usage: {commandName} [OPTIONS] <COMMAND>",
    "",
    "Commands:",
    "  repl     Interactive mode: enter statements, then `run`",
    "  demo     Run a fixed set of demo statements",
    "  exec     Add the given imports and statements, then run them once",
    "  version  Print version information",
    "  help     Print this message",
    "",
    "Options:",
    "  -o, --out-dir <DIR>  Directory for the generated source, the compiled unit and error.log",
    "      --rustc <PATH>   Compiler to use instead of the configured one",
    "  -v, --verbose        Enable verbose output",
    "  -h, --help           Print help",
    "  -V, --version        Print version",
    ""]

/-- The prompt that asks for an output directory. -/
def directoryPrompt : String :=
  "Enter a valid temporary file directory (that you have access permissions for): "

/-- The failure for want of an output directory. -/
def noDirectory : Failure :=
  { message :=
      "No output directory: pass --out-dir or set session.output_dir in the config file" }

/-! ## Settings and directories -/

/-- The settings, with what the environment and the command line say about the compiler. -/
def settle (options : Options) : Effect Failure Settings := do
  let read ← Effect.ask fun w => Settings.load w.environment w.files
  let settings ← Effect.mapError (fun e => e.failure.within "Failed to load configuration")
    (Effect.ofExcept read)
  -- The environment may replace the compiler of the settings, and the command line that of both.
  let settings ← Effect.ask fun w => settings.applyEnvironment w.environment
  return options.compiler.elim settings settings.withCompiler

/-- The absolute path of a directory that is fit for output. -/
def checkDirectory (path : Path) : Effect Failure Path :=
  Effect.mapError OutputDirectoryError.failure (OutputDirectory.validate path)

/-- The output directory that has been given, if one has. -/
def givenDirectory (options : Options) (settings : Settings) : Option Path :=
  options.outputDirectory <|> settings.outputDirectory

/-- The output directory for a command that does not talk to the user. -/
def requireDirectory (options : Options) (settings : Settings) : Effect Failure Path :=
  match givenDirectory options settings with
  | some path => checkDirectory path
  | none => Effect.fail noDirectory

/-- The output directory for a command that may ask for it; also the lines that are left. -/
def findDirectory (options : Options) (settings : Settings) (input : LineInput) :
    Effect Failure (Path × LineInput) := do
  match givenDirectory options settings with
  | some path => return (← checkDirectory path, input)
  | none =>
    let (line, input) ← Effect.mapError ReadError.failure (input.readLine directoryPrompt)
    return (← checkDirectory (.ofString (Dialogue.trimLine line)), input)

/-! ## Commands -/

/-- Runs the fragments of an interpreter as a part of `task`. A unit that the compiler refuses is
reported, and leads to the status 1. -/
def runOnce (task : String) (s : Interpreter) : Effect Failure UInt8 := do
  let outcome ← Effect.mapError (fun e => e.failure.within task) fun w =>
    let (result, _, w) := s.run w
    (result, w)
  match outcome with
  | .executed _ => return 0
  | .rejected summary log =>
    Effect.report (Dialogue.refusal summary log ++ "\n")
    return 1

/-- Runs imports and fragments. A fragment that is refused is reported, and leads to the status
2. -/
def execute (s : Interpreter) (imports fragments : List String) : Effect Failure UInt8 := do
  match ← Effect.attempt ((imports.foldl Interpreter.addImport s).addAll fragments) with
  | .ok s => runOnce "Failed to run statements" s
  | .error e =>
    Effect.report (e.message ++ "\n")
    return 2

/-- Runs the demonstration. -/
def demonstrate (s : Interpreter) : Effect Failure UInt8 := do
  let task := "Demo failed"
  Effect.print Demo.introduction
  let s ← Effect.mapError (fun e => e.failure.within task) (Demo.queue s)
  runOnce task s

/-- Holds a conversation. -/
def converse (settings : DialogueSettings) (input : LineInput) (s : Interpreter) :
    Effect Failure UInt8 := do
  let _ ← Effect.mapError ReadError.failure (Conversation.hold settings input s)
  return 0

/-- Does what a command tells; returns the exit status. -/
def perform (options : Options) (command : Command) (input : LineInput) : Effect Failure UInt8 := do
  let settings ← settle options
  let toolchain := settings.toolchain
  match command with
  | .converse =>
    let (directory, input) ← findDirectory options settings input
    converse settings.dialogue input (.new directory toolchain)
  | .demo =>
    let (directory, _) ← findDirectory options settings input
    demonstrate (.new directory toolchain)
  | .execute imports fragments =>
    let directory ← requireDirectory options settings
    execute (.new directory toolchain) imports fragments
  | .version =>
    Effect.print s!"{name} {version}\n"
    return 0

/-! ## Runs -/

/-- How a run of the program ended. -/
structure Ending where
  status : UInt8
  standardOutput : String
  standardError : String
  world : World

/-- The ending of a run that left `w` behind and logged messages from `threshold` on. -/
def finish (status : UInt8) (threshold : Severity) (w : World) : Ending :=
  { status
    standardOutput := Event.standardOutput w.history
    standardError := Event.standardError threshold w.history
    world := w }

/-- The exit status of what was attempted. A failure is reported, and has the status 1. -/
def conclude (x : Effect Failure UInt8) : Effect Empty UInt8 := do
  match ← Effect.attempt x with
  | .ok status => return status
  | .error e =>
    Effect.report e.report
    return 1

/-- The exit status of an effect that cannot fail, with the world that it leaves. -/
def completed (x : Effect Empty UInt8) (w : World) : UInt8 × World :=
  match x w with
  | (.ok status, w) => (status, w)

/-- A run of the program with these arguments and these bytes on standard input. -/
def run (arguments : List String) (input : List UInt8) (w : World) : Ending :=
  let say (event : Event) (status : UInt8) : Ending :=
    finish status .warn { w with history := w.history ++ [event] }
  match CommandLine.parse? arguments with
  | none => say (.reported usage) 2
  | some .nameAndVersion => say (.printed s!"{commandName} {version}\n") 0
  | some .help => say (.printed helpText) 0
  | some (.perform options command) =>
    let (status, w) := completed (conclude (perform options command (.ofBytes input))) w
    finish status (if options.verbose then .debug else .warn) w

end FragmentRunner.Program
