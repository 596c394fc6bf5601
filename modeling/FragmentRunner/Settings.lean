import FragmentRunner.Toml.Document
import FragmentRunner.Lookup
import FragmentRunner.Text.Utf8

/-!
# Settings

The settings are read from a file in the user's configuration directory, if there is one; what the
file does not say has a default. A record may be written as a table or as the list of its fields in
order; keys and list items that no field stands for are ignored, but a field of the wrong kind is
not.

* `Settings.parse` reads the text of a settings file, `Settings.load` finds and reads the file.
* `Settings.applyEnvironment` lets the environment choose the compiler.
-/

namespace FragmentRunner

/-- How the dialogue reads lines. -/
structure DialogueSettings where
  /-- How many lines are remembered. -/
  historySize : Nat := 1000
  /-- The file that lines are remembered in, if any; a leading `~` stands for the home directory. -/
  historyFile : Option Path := none
  prompt : String := "runlet> "
  /-- Whether complaints are written in red. -/
  colors : Bool := true
deriving DecidableEq

/-- What the user has settled. -/
structure Settings where
  toolchain : Toolchain := {}
  dialogue : DialogueSettings := {}
  /-- The directory that everything is written into, unless the user is to be asked. -/
  outputDirectory : Option Path := none
deriving DecidableEq

/-- Why the settings could not be read. -/
inductive SettingsError
  /-- The file could not be read. -/
  | unreadable (cause : IoError)
  /-- The text is no document, or a field has a value of the wrong kind. -/
  | malformed
deriving DecidableEq

/-- The text that describes a failure. -/
def SettingsError.message : SettingsError → String
  | .unreadable cause => "IO error: " ++ cause.message
  | .malformed => "Config parse error: not a settings document"

namespace Settings

/-! ## Reading values -/

/-- The text that a value is. -/
def textOf? : Toml.Value → Option String
  | .text s => some s
  | _ => none

/-- The path that a value is. -/
def pathOf? (value : Toml.Value) : Option (Option Path) :=
  (textOf? value).map fun s => some (.ofString s)

/-- The number, not below zero, that a value is. -/
def sizeOf? : Toml.Value → Option Nat
  | .integer n => if 0 ≤ n then some n.toNat else none
  | _ => none

/-- The truth value that a value is. -/
def flagOf? : Toml.Value → Option Bool
  | .boolean b => some b
  | _ => none

/-- The texts that a value lists. -/
def textsOf? : Toml.Value → Option (List String)
  | .list items => items.mapM textOf?
  | _ => none

/-- The format with a given name. -/
def formatNamed? (name : String) : Option ErrorFormat :=
  [ErrorFormat.short, .human].find? (·.name = name)

/-- Whether a value is a list or a table that holds nothing. -/
def isVoid : Toml.Value → Bool
  | .list items => items.isEmpty
  | .table t => t.entries.isEmpty
  | _ => false

/-- The format that a value names: by its name, or as the only key of a table, with nothing behind
it. -/
def formatOf? : Toml.Value → Option ErrorFormat
  | .text name => formatNamed? name
  | .table t =>
    match t.entries with
    | [(name, value)] => if isVoid value then formatNamed? name else none
    | _ => none
  | _ => none

/-! ## Reading records -/

/-- The fields that a value gives to a record with fields of these names, in this order. A date or a
time gives it none. -/
def fieldsOf? (names : List String) : Toml.Value → Option (List (String × Toml.Value))
  | .table t => some t.entries
  | .list items => some (names.zip items)
  | .tables items => some (names.zip (items.map .table))
  | .moment _ => some []
  | _ => none

/-- The field `name`, which `read` understands; `default` if it is not given. -/
def field? {α : Type} (fields : List (String × Toml.Value)) (name : String)
    (read : Toml.Value → Option α) (default : α) : Option α :=
  match fields.lookup name with
  | none => some default
  | some value => read value

/-- The compiler settings that a value stands for. -/
def toolchainOf? (value : Toml.Value) : Option Toolchain := do
  let fields ← fieldsOf? ["rustc", "edition", "opt_level", "error_format", "extra_args"] value
  let default : Toolchain := {}
  return {
    compiler := ← field? fields "rustc" pathOf? default.compiler
    edition := ← field? fields "edition" textOf? default.edition
    optimisation := ← field? fields "opt_level" textOf? default.optimisation
    errorFormat := ← field? fields "error_format" formatOf? default.errorFormat
    extraArguments := ← field? fields "extra_args" textsOf? default.extraArguments }

/-- The settings of the dialogue that a value stands for. -/
def dialogueOf? (value : Toml.Value) : Option DialogueSettings := do
  let fields ← fieldsOf? ["history_size", "history_file", "prompt", "colors"] value
  let default : DialogueSettings := {}
  return {
    historySize := ← field? fields "history_size" sizeOf? default.historySize
    historyFile := ← field? fields "history_file" pathOf? default.historyFile
    prompt := ← field? fields "prompt" textOf? default.prompt
    colors := ← field? fields "colors" flagOf? default.colors }

/-- The output directory in the settings of a session that a value stands for. -/
def outputDirectoryOf? (value : Toml.Value) : Option (Option Path) := do
  let fields ← fieldsOf? ["output_dir"] value
  field? fields "output_dir" pathOf? none

/-- The settings that a document stands for. -/
def ofDocument? (document : Toml.Table) : Option Settings := do
  let fields := document.entries
  return {
    toolchain := ← field? fields "toolchain" toolchainOf? {}
    dialogue := ← field? fields "repl" dialogueOf? {}
    outputDirectory := ← field? fields "session" outputDirectoryOf? none }

/-- The settings in the text of a settings file. -/
def parse (text : String) : Except SettingsError Settings :=
  match (Toml.parse? text.toList).bind ofDocument? with
  | some settings => .ok settings
  | none => .error .malformed

/-! ## The settings file -/

/-- The configuration directory of the program. -/
def directory? (env : Environment) : Option Path :=
  let below (directories : List String) (home : String) : Path :=
    (directories ++ ["runlet"]).foldl (fun p name => p.join (.ofString name)) (.ofString home)
  -- The first variable that is set decides, even if it is empty.
  (env.get? "XDG_CONFIG_HOME").map (below [])
    <|> (env.get? "HOME").map (below [".config"])
    <|> (env.get? "APPDATA").map (below [])

/-- The settings file. -/
def file? (env : Environment) : Option Path :=
  (directory? env).map fun directory => directory.join (.ofString "config.toml")

/-- The settings in the file at `path`. -/
def readFile (fs : FileSystem) (path : Path) : Except SettingsError Settings :=
  match fs.read path with
  | .error e => .error (.unreadable e)
  | .ok bytes =>
    match Text.Utf8.decode? bytes with
    | none => .error (.unreadable .malformedText)
    | some chars => parse (String.ofList chars)

/-- The settings in the settings file, or the defaults if there is none. -/
def load (env : Environment) (fs : FileSystem) : Except SettingsError Settings :=
  match file? env with
  | none => .ok {}
  -- A file that is there but cannot be read is a failure.
  | some path => if fs.has path then readFile fs path else .ok {}

/-- The settings with another compiler. -/
def withCompiler (settings : Settings) (compiler : Path) : Settings :=
  { settings with toolchain := { settings.toolchain with compiler := some compiler } }

/-- The settings with the compiler that the environment names, if it names one. -/
def applyEnvironment (env : Environment) (settings : Settings) : Settings :=
  match env.nonempty? compilerVariable with
  | some path => settings.withCompiler (.ofString path)
  | none => settings

end Settings

/-- The file that lines are remembered in, with the home directory in the place of a leading `~`. -/
def DialogueSettings.historyPath? (settings : DialogueSettings) (env : Environment) :
    Option Path :=
  settings.historyFile.map fun path =>
    -- Only a component of its own stands for the home directory.
    match path.stripFirst? ['~'], env.get? "HOME" with
    | some rest, some home => (Path.ofString home).join rest
    | _, _ => path

end FragmentRunner
