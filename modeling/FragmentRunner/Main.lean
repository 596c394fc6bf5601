import FragmentRunner.Program

/-!
# The program as an executable

The thin layer around `Program.run`. It gathers what a run can depend on, lets the run happen, and
passes on what it did: the files that it changed, its output, its errors and its status.

The files that a run can depend on are those that its arguments, its settings or its input can name;
they are looked at beforehand. Programs cannot be started from here, so no compiler is ever found
among the files, and a run of fragments ends with a report that says so.
-/

namespace FragmentRunner.Main

/-- The environment variables that a run can depend on. -/
def variableNames : List String :=
  ["HOME", "PATH", "TERM", "XDG_CONFIG_HOME", "APPDATA", compilerVariable]

/-- The environment, as far as a run can depend on it. -/
def readEnvironment : IO Environment := do
  let found ← variableNames.filterMapM fun name => do
    return (← IO.getEnv name).map fun value => (name, value)
  return ⟨found⟩

/-- What stands at a path: reading fails in its own way for a directory. -/
def inspect (path : String) : IO (Option Node) := do
  try
    return some (.file (.bytes (← IO.FS.readBinFile path).toList) false)
  catch
    | .inappropriateType none _ _ => return some (.directory .full)
    | _ => return none

/-- Adds what stands at a path to the files. -/
def addPath (files : FileSystem) (path : Path) : IO FileSystem := do
  match ← inspect path.spelling with
  | some node => return files.place path node
  | none => return files

/-- The path that a line of input can name: all of it, or the argument of the command that changes
the output directory. -/
def pathInLine (line : String) : Path :=
  match LineCommand.parse (Dialogue.trimLine line) with
  | .directory (some path) => .ofString path
  | _ => .ofString (Dialogue.trimLine line)

/-- The paths that arguments and input can name. -/
def namedPaths (arguments : List String) (input : List UInt8) : List Path :=
  let given := match CommandLine.parse? arguments with
    | some (.perform options _) => options.outputDirectory.toList
    | _ => []
  given ++ ((LineInput.ofBytes input).filterMap id).map pathInLine

/-- The paths that the settings name. -/
def settledPaths (env : Environment) (files : FileSystem) : List Path :=
  match Settings.load env files with
  | .ok settings =>
    settings.outputDirectory.toList ++ (settings.dialogue.historyPath? env).toList
  | .error _ => []

/-- The world in which a run begins. -/
def readWorld (arguments : List String) (input : List UInt8) : IO World := do
  let environment ← readEnvironment
  let here := Path.ofString (toString (← IO.currentDir))
  let files : FileSystem := { entries := [], here := here.steps }
  let files := files.place here (.directory .full)
  let files ← (Settings.file? environment).toList.foldlM addPath files
  let files ← (settledPaths environment files).foldlM addPath files
  let files ← (namedPaths arguments input).foldlM addPath files
  -- No program is ever found, so what a compiler would do does not matter.
  let plan : CompilerPlan := { diagnostics := [], artifact := .nothing, exit := .exited 1 }
  return { files, environment, plans := fun _ => plan, history := [] }

/-- The path of a location. -/
def spellLocation (location : Location) : String :=
  String.ofList ('/' :: Path.ofSegments location)

/-- Writes what a run changed. -/
def writeChanges (before after : FileSystem) : IO Unit := do
  for (location, node) in after.entries.reverse do
    if before.node? location ≠ some node then
      match node with
      | .directory _ => IO.FS.createDirAll (spellLocation location)
      | .file content _ =>
        IO.FS.writeBinFile (spellLocation location) ⟨content.toBytes.toArray⟩

end FragmentRunner.Main

/-- Runs the program. -/
def main (arguments : List String) : IO UInt32 := do
  let input := (← (← IO.getStdin).readBinToEnd).toList
  let world ← FragmentRunner.Main.readWorld arguments input
  let ending := FragmentRunner.Program.run arguments input world
  FragmentRunner.Main.writeChanges world.files ending.world.files
  (← IO.getStdout).putStr ending.standardOutput
  (← IO.getStderr).putStr ending.standardError
  return ending.status.toUInt32
