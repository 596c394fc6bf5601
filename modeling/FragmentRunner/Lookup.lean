import FragmentRunner.World
import FragmentRunner.Toolchain

/-!
# Finding programs

A compiler that no setting names is looked for in the directories of `PATH` (`searchCompiler`). When
a program is started, a name without a slash is looked for there too, by rules of its own
(`findProgram`): a candidate that may not be executed is passed over but remembered, a directory
whose path is too long is not looked at, and a missing `PATH` stands for the system directories.
-/

namespace FragmentRunner

/-- The variable that names the compiler. -/
def compilerVariable : String := "RUNLET_RUSTC"

/-- The name under which a compiler is looked for. -/
def compilerName : Path := .ofString "rustc"

/-- Why no compiler was found. -/
inductive LookupError
  | noSearchPath
  | notOnSearchPath
deriving DecidableEq

/-- The text that describes why no compiler was found. -/
def LookupError.message : LookupError → String
  | .noSearchPath => "no path to search and provided name is not an absolute path"
  | .notOnSearchPath => "cannot find binary path"

/-- The directories that a search path lists. -/
def searchDirectories (value : String) : List Path :=
  (Text.pieces (· = ':') value.toList).map Path.mk

/-- A directory of a search path with a leading tilde replaced by the home directory, if there is
one. -/
def expandTilde (env : Environment) (directory : Path) : Path :=
  match directory.stripFirst? ['~'], env.nonempty? "HOME" with
  | some rest, some home => (Path.ofString home).extend rest.names
  | _, _ => directory

/-- Where a compiler in a directory of the search path is; a relative path is spelled from the root,
and an absolute one is kept as it is spelled. -/
def compilerIn (env : Environment) (here directory : Path) : Path :=
  let candidate := (expandTilde env directory).join compilerName
  if candidate.isAbsolute then candidate else Path.absolute here candidate

/-- The first compiler in the directories of `PATH`. -/
def searchCompiler (env : Environment) (fs : FileSystem) : Except LookupError Path :=
  match env.get? "PATH" with
  | none => .error .noSearchPath
  | some value =>
    let candidates := (searchDirectories value).map (compilerIn env fs.currentDirectory)
    match candidates.find? fun candidate => (fs.checkExecutable candidate).isOk with
    | some compiler => .ok compiler
    | none => .error .notOnSearchPath

/-- The compiler to run: the one in the settings, the one that the environment names, or the first
one on the search path. -/
def Toolchain.resolve (toolchain : Toolchain) (env : Environment) (fs : FileSystem) :
    Except LookupError Path :=
  match toolchain.compiler with
  | some compiler => .ok compiler
  | none =>
    match env.nonempty? compilerVariable with
    | some compiler => .ok (.ofString compiler)
    | none => searchCompiler env fs

/-- The directories that are searched when `PATH` is not set. -/
def systemDirectories : String := "/bin:/usr/bin"

/-- Looks for a program among candidate paths; `failure` is what the search fails with at the end,
and `denied` tells that a candidate was found which may not be executed. -/
def findAmong (fs : FileSystem) : List Path → (denied : Bool) → (failure : IoError) →
    Except IoError Path
  | [], denied, failure => .error (if denied then .permissionDenied else failure)
  | candidate :: rest, denied, _ =>
    match fs.checkExecutable candidate with
    | .ok _ => .ok candidate
    -- What may not be executed is passed over, but decides the failure if nothing else is found.
    | .error .permissionDenied => findAmong fs rest true .permissionDenied
    | .error .notFound => findAmong fs rest denied .notFound
    | .error .notADirectory => findAmong fs rest denied .notADirectory
    | .error e => .error e

/-- The file that is executed when `program` is started. -/
def findProgram (env : Environment) (fs : FileSystem) (program : Path) : Except IoError Path :=
  -- A name with a slash is a path, and no other place is looked at.
  if program.chars.contains '/' then
    (fs.checkExecutable program).map fun _ => program
  else if program.chars.isEmpty then .error .notFound
  else
    let directories := (searchDirectories ((env.get? "PATH").getD systemDirectories)).filter
      fun directory => directory.byteSize ≤ FileSystem.pathLimit
    findAmong fs (directories.map (·.join program)) false .notFound

namespace Effect

/-- Starts the compiler `program` with its standard error going to the file `log`, and waits for its
end. Neither the program nor an argument may hold NUL. -/
def startCompiler (program : Path) (arguments : List String) (log : Path) :
    Effect IoError ExitStatus := fun w =>
  let command := program.spelling :: arguments
  if command.any fun argument => (Path.ofString argument).hasNul then (.error .nulInCommand, w)
  else
    match findProgram w.environment w.files program with
    | .error e => (.error e, w)
    | .ok _ =>
      -- The log was opened before the start, so its path has been written to once already.
      let logged := (w.files.write log (.bytes w.compiler.diagnostics)).toOption.getD w.files
      (.ok w.compiler.exit,
        { w with
          files := w.compiler.artifact.leave command logged
          history := w.history ++ [.started command] })

end Effect

end FragmentRunner
