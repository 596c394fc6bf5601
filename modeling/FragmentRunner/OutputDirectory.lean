import FragmentRunner.World

/-!
# Checking an output directory

A directory is fit for output if it exists and a file can be created in it. That is found out by
creating one, since permissions alone do not tell; it has no name and leaves nothing behind. A
directory that is fit is returned as an absolute path, or as it was given if the path of the current
directory cannot be told.
-/

namespace FragmentRunner

/-- Why a path is not fit for output. -/
inductive OutputDirectoryError
  | missing (path : Path)
  | notADirectory (path : Path)
  | notWritable (path : Path) (cause : IoError)
deriving DecidableEq

/-- The text that describes why a path is not fit for output. -/
def OutputDirectoryError.message : OutputDirectoryError → String
  | .missing path => s!"Invalid file location: {path} does not exist"
  | .notADirectory path => s!"Invalid file location: {path} is not a directory"
  | .notWritable path cause => s!"Invalid file location: {path} is not writable ({cause.message})"

namespace OutputDirectory

/-- Creates a file without a name in a directory. -/
def probe (path : Path) : Effect IoError Unit := fun w =>
  (w.files.createNameless path, w)

/-- The path of a directory that is fit for output, absolute if it can be made so. -/
def validate (path : Path) : Effect OutputDirectoryError Path := do
  if ← Effect.ask (!·.files.has path) then Effect.fail (.missing path)
  else if ← Effect.ask (!·.files.isDirectory path) then Effect.fail (.notADirectory path)
  else
    Effect.mapError (.notWritable path) (probe path)
    Effect.ask fun w => (w.files.absolute? path).getD path

end OutputDirectory

end FragmentRunner
