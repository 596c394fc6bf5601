import FragmentRunner.Path

/-!
# The command line

The arguments name a command, and options stand before or after its name. An option with a value
takes the next argument, even one that is the name of a command, but not one that looks like an
option; or the value is attached to it, after an equals sign or, for an option of one letter,
directly. Options of one letter can share a dash. After a double dash nothing is an option.

Each option is given at most once before the name of the command and at most once after it, and the
latter counts; only imports can be given again and again. Instead of a command, the name and version
of the program or its help can be asked for, which takes effect as soon as it is read.

* `CommandLine.parse?` is what the arguments ask for, if they can be understood.
-/

namespace FragmentRunner

/-- What the program can be told to do. -/
inductive Command
  /-- Read lines and answer them. -/
  | converse
  /-- Run the demonstration. -/
  | demo
  /-- Run fragments. -/
  | execute (imports fragments : List String)
  /-- Tell the version. -/
  | version
deriving DecidableEq

/-- What can be settled on the command line for every command. -/
structure Options where
  outputDirectory : Option Path := none
  compiler : Option Path := none
  /-- Whether everything is logged. -/
  verbose : Bool := false
deriving DecidableEq

/-- What the program is asked for. -/
inductive Request
  | perform (options : Options) (command : Command)
  | nameAndVersion
  | help
deriving DecidableEq

namespace CommandLine

/-- The name of a command. -/
inductive Verb
  | converse
  | demo
  | execute
  | version
deriving DecidableEq

/-- Where an argument stands: before the name of the command, or after it. -/
inductive Place
  | before
  | after (verb : Verb)
deriving DecidableEq

/-- An option that takes a value. -/
inductive Setting
  | outputDirectory
  | compiler
  | leadingImport
deriving DecidableEq

/-- An option. -/
inductive Switch
  | setting (s : Setting)
  | verbose
  | nameAndVersion
  | help
deriving DecidableEq

/-- What has been given in one place. -/
structure Given where
  options : Options := {}
  imports : List String := []
  fragments : List String := []
deriving DecidableEq

/-- Why the arguments are not read to their end. -/
inductive Stop
  /-- They cannot be understood. -/
  | misuse
  | nameAndVersion
  | help
deriving DecidableEq

/-- The command with a given name. -/
def verb? : String → Option Verb
  | "repl" => some .converse
  | "demo" => some .demo
  | "exec" => some .execute
  | "version" => some .version
  | _ => none

/-- The option with a given letter. -/
def shortSwitch? (place : Place) : Char → Option Switch
  | 'o' => some (.setting .outputDirectory)
  | 'v' => some .verbose
  | 'h' => some .help
  | 'V' => if place = .before then some .nameAndVersion else none
  | 'i' => if place = .after .execute then some (.setting .leadingImport) else none
  | _ => none

/-- The option with a given name. -/
def longSwitch? (place : Place) : String → Option Switch
  | "out-dir" => some (.setting .outputDirectory)
  | "rustc" => some (.setting .compiler)
  | "verbose" => some .verbose
  | "help" => some .help
  | "version" => if place = .before then some .nameAndVersion else none
  | "import" => if place = .after .execute then some (.setting .leadingImport) else none
  | _ => none

namespace Given

/-- The path that a value names, if none was given before. -/
def newPath (old : Option Path) (value : String) : Except Stop (Option Path) :=
  if old.isSome || value.isEmpty then .error .misuse else .ok (some (.ofString value))

/-- Adds the value of an option. -/
def give (g : Given) (setting : Setting) (value : String) : Except Stop Given :=
  match setting with
  | .outputDirectory => do
    let outputDirectory ← newPath g.options.outputDirectory value
    return { g with options := { g.options with outputDirectory } }
  | .compiler => do
    let compiler ← newPath g.options.compiler value
    return { g with options := { g.options with compiler } }
  | .leadingImport => .ok { g with imports := g.imports ++ [value] }

/-- Adds that everything is to be logged. -/
def giveVerbose (g : Given) : Except Stop Given :=
  if g.options.verbose then .error .misuse
  else .ok { g with options := { g.options with verbose := true } }

/-- Adds arguments that are no options. -/
def giveWords (verb : Verb) (g : Given) (words : List String) : Except Stop Given :=
  if verb = .execute || words.isEmpty then .ok { g with fragments := g.fragments ++ words }
  else .error .misuse

end Given

/-- What is known after an option has been read; the option may still want its value. -/
abbrev Progress := Given × Option Setting

/-- Reads the options of one letter that share a dash. The rest of the argument, if there is any, is
the value of the first option that takes one. -/
def readLetters (place : Place) : Given → List Char → Except Stop Progress
  | g, [] => .ok (g, none)
  | g, c :: rest =>
    match shortSwitch? place c with
    | none => .error .misuse
    | some .help => .error .help
    | some .nameAndVersion => .error .nameAndVersion
    | some .verbose => do readLetters place (← g.giveVerbose) rest
    | some (.setting s) =>
      match rest with
      | [] => .ok (g, some s)
      -- An equals sign in front of the value is not part of it.
      | '=' :: value => do return (← g.give s (String.ofList value), none)
      | value => do return (← g.give s (String.ofList value), none)

/-- The name of an option and the value attached to it, if there is one. -/
def splitName (s : List Char) : String × Option String :=
  let name := String.ofList (s.takeWhile (· ≠ '='))
  match s.dropWhile (· ≠ '=') with
  | [] => (name, none)
  | _ :: value => (name, some (String.ofList value))

/-- Reads an option with a name. -/
def readNamed (place : Place) (g : Given) (s : List Char) : Except Stop Progress :=
  let (name, value?) := splitName s
  match longSwitch? place name, value? with
  | some (.setting s), none => .ok (g, some s)
  | some (.setting s), some value => do return (← g.give s value, none)
  | some .verbose, none => do return (← g.giveVerbose, none)
  | some .help, none => .error .help
  | some .nameAndVersion, none => .error .nameAndVersion
  -- What is left is an unknown name, or a value for an option that takes none.
  | _, _ => .error .misuse

/-- Whether an argument looks like an option: a dash and something after it. -/
def looksLikeOption (arg : String) : Bool :=
  match arg.toList with
  | '-' :: _ :: _ => true
  | _ => false

/-- Reads an argument that looks like an option. -/
def readOption (place : Place) (g : Given) (arg : String) : Except Stop Progress :=
  match arg.toList with
  | '-' :: '-' :: s => readNamed place g s
  | _ :: s => readLetters place g s
  | [] => .error .misuse

/-- Reads arguments in one place. Before the name of the command, that is up to the first argument
that is no option; also returns what is left. -/
def scan (place : Place) : Given → List String → Except Stop (Given × List String)
  | g, [] => .ok (g, [])
  | g, arg :: rest =>
    if !looksLikeOption arg then
      match place with
      -- The first word is the name of the command; it is for the caller to read.
      | .before => .ok (g, arg :: rest)
      | .after verb => do scan place (← g.giveWords verb [arg]) rest
    else if arg = "--" then
      match place with
      -- No name of a command can follow, since nothing is an option any more.
      | .before => .error .misuse
      | .after verb => do return (← g.giveWords verb rest, [])
    else do
      let (g, wanting) ← readOption place g arg
      match wanting, rest with
      | none, rest => scan place g rest
      | some s, value :: rest =>
        -- A value may be the name of a command, but it may not look like an option.
        if looksLikeOption value then .error .misuse else scan place (← g.give s value) rest
      | some _, [] => .error .misuse

/-- The options given before and after the name of the command. -/
def merge (outer inner : Options) : Options :=
  -- What stands after the name of the command counts.
  { outputDirectory := inner.outputDirectory <|> outer.outputDirectory
    compiler := inner.compiler <|> outer.compiler
    verbose := outer.verbose || inner.verbose }

/-- The command that a name and what was given after it tell. -/
def command (given : Given) : Verb → Except Stop Command
  | .converse => .ok .converse
  | .demo => .ok .demo
  | .version => .ok .version
  | .execute =>
    if given.fragments.isEmpty then .error .misuse
    else .ok (.execute given.imports given.fragments)

/-- The name that stands for the help in the place of a command. -/
def helpName : String := "help"

/-- What follows the request for help: at most the name of a command, which has none below it. -/
def readTopics : List String → Stop
  | [] => .help
  | [topic] => if topic = helpName || (verb? topic).isSome then .help else .misuse
  | _ => .misuse

/-- Reads the name of the command and what follows it. -/
def readCommand (outer : Given) : List String → Except Stop Request
  | [] => .error .misuse
  | name :: rest =>
    if name = helpName then .error (readTopics rest)
    else
      match verb? name with
      | none => .error .misuse
      | some verb => do
        let (inner, _) ← scan (.after verb) {} rest
        return .perform (merge outer.options inner.options) (← command inner verb)

/-- What the arguments ask for, if they can be understood. -/
def parse? (arguments : List String) : Option Request :=
  let result := do
    let (outer, rest) ← scan .before {} arguments
    readCommand outer rest
  match result with
  | .ok request => some request
  | .error .nameAndVersion => some .nameAndVersion
  | .error .help => some .help
  | .error .misuse => none

end CommandLine

end FragmentRunner
