import FragmentRunner.Diagnostic
import FragmentRunner.Lookup

/-!
# The build directory

Sources are written into one directory, and the compiler's diagnostics are kept there in a log that
every compile starts anew. A compile puts its library beside the source. A compiler that refuses
the source is no failure: `compile` fails only if no compiler was found or started, or the log could
not be created.
-/

namespace FragmentRunner

/-- The log of the last compile. -/
def logFile : Path := .ofString "error.log"

/-- Why a unit could not be written or compiled. -/
inductive BuildError
  /-- No compiler was found. -/
  | notFound (cause : LookupError)
  /-- The compiler could not be started. -/
  | notStarted (program : Path) (cause : IoError)
  /-- A file operation failed. -/
  | io (cause : IoError)
deriving DecidableEq

/-- The text that describes a failure. -/
def BuildError.message : BuildError → String
  | .notFound cause => "Rust compiler not found: " ++ cause.message
  | .notStarted program cause => s!"Failed to start `{program}`: {cause.message}"
  | .io cause => "IO error: " ++ cause.message

/-- What one compile came to. -/
structure Build where
  source : Path
  /-- Whether the compiler ended as programs do that succeeded. -/
  succeeded : Bool
  /-- Where the diagnostics are. -/
  log : Path
  /-- Where the library is, if the compiler made one. -/
  library : Path
deriving DecidableEq

/-- A directory in which units are compiled, and how. -/
structure BuildDirectory where
  directory : Path
  toolchain : Toolchain
deriving DecidableEq

namespace BuildDirectory

/-- Where the diagnostics of the last compile are. -/
def log (build : BuildDirectory) : Path :=
  build.directory.join logFile

/-- Fails unless the build directory is a directory. -/
def check (build : BuildDirectory) : Effect IoError Unit := do
  match ← Effect.ask (·.files.status build.directory) with
  | .ok (.directory _) => return ()
  | .ok (.file ..) => Effect.fail (.notAnOutputDirectory build.directory)
  | .error e => Effect.fail e

/-- Creates the directories between the build directory and the file `relative` in it. -/
def prepare (build : BuildDirectory) (relative : Path) : Effect IoError Unit :=
  match relative.parent? with
  | none => return ()
  | some parent =>
    if parent.chars.isEmpty then return ()
    else Effect.changeAnyway (·.createDirectories (build.directory.join parent))

/-- Writes `content` to the file `relative` in the build directory, in the place of what it held,
and returns its path. Missing directories are created, except the build directory itself. -/
def writeSource (build : BuildDirectory) (relative : Path) (content : String) :
    Effect BuildError Path := do
  let path := build.directory.join relative
  Effect.mapError .io build.check
  Effect.mapError .io (build.prepare relative)
  Effect.mapError .io (Effect.change (·.write path (.text content)))
  Effect.debug s!"Wrote {content.utf8ByteSize} bytes to {path}"
  return path

/-- The directory that the library of a source goes to. -/
def libraryDirectory (build : BuildDirectory) (source : Path) : Path :=
  source.parent?.getD build.directory

/-- The name under which a source is compiled. -/
def crateName (source : Path) : String :=
  match source.fileStem? with
  | some stem => String.ofList (stem.map fun c => if c = '-' then '_' else c)
  | none => "runner"

/-- The arguments with which the compiler is started. -/
def compilerArguments (build : BuildDirectory) (source : Path) : List String :=
  ["--crate-type", "cdylib", "--crate-name", crateName source,
    "--edition", build.toolchain.edition,
    "--error-format", build.toolchain.errorFormat.name,
    "-C", "opt-level=" ++ build.toolchain.optimisation, "-A", "warnings",
    "--out-dir", (build.libraryDirectory source).spelling]
    ++ build.toolchain.extraArguments ++ [source.spelling]

/-- A part of a command line as the log shows it, quoted by `quote`; one that holds NUL is not
shown. -/
def shownPart (quote : List Char → List Char) (part : String) : String :=
  if (Path.ofString part).hasNul then "\"<string-with-nul>\""
  else String.ofList (quote part.toList)

/-- A command line as the log shows it. -/
def shownCommand (program : Path) (arguments : List String) : String :=
  " ".intercalate
    (shownPart Text.quoteName program.spelling :: arguments.map (shownPart Text.quote))

/-- Compiles `source` into a library beside it. -/
def compile (build : BuildDirectory) (source : Path) : Effect BuildError Build := do
  let program ← Effect.mapError .notFound
    (fun w => (build.toolchain.resolve w.environment w.files, w))
  let arguments := build.compilerArguments source
  -- The log of an earlier compile is emptied before the compiler is started.
  Effect.mapError .io (Effect.change (·.write build.log (.bytes [])))
  Effect.debug ("Running " ++ shownCommand program arguments)
  let status ← Effect.mapError (.notStarted program)
    (Effect.startCompiler program arguments build.log)
  Effect.info s!"{program} finished with {status.description}"
  return {
    source
    succeeded := status.succeeded
    log := build.log
    library := (build.libraryDirectory source).join (libraryName (crateName source)) }

/-- The summary of the last compile's diagnostics. -/
def lastSummary {ε : Type} (build : BuildDirectory) : Effect ε (Option String) :=
  Diagnostic.summarizeFile build.log

end BuildDirectory

end FragmentRunner
