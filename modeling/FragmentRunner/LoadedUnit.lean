import FragmentRunner.Image
import FragmentRunner.World

/-!
# Loaded units

A compiled unit is not opened where the compiler put it. It is copied to a staging file with a
name of its own, beside the library, and opened from there: the unit has the same name in every
run, and a loader that already holds a file of some name does not look at it again. The staging
file is created empty, before the library is copied to it. It lives as long as the unit and is
removed when loading fails, be it that the library cannot be copied or that the copy cannot be
opened.
-/

namespace FragmentRunner

/-- How an entry point ended. -/
inductive Completion
  /-- Every statement ran. -/
  | completed
  /-- A statement panicked. -/
  | panicked
deriving DecidableEq

/-- The name of a completion. -/
def Completion.name : Completion → String
  | .completed => "Completed"
  | .panicked => "Panicked"

/-- Why a unit could not be loaded. -/
inductive LoadError
  /-- There is no file at the path of the library. -/
  | missing (path : Path)
  /-- The library could not be copied to its staging file. -/
  | notStaged (cause : IoError)
  /-- The staging file is not an image. -/
  | notOpened
deriving DecidableEq

/-- What a failure to open an image is put down to. -/
def openFailure : String := "invalid image"

/-- The text that describes a failure. -/
def LoadError.message : LoadError → String
  | .missing path => s!"Compiled unit not found: {path}"
  | .notStaged cause => "Failed to stage compiled unit: " ++ cause.message
  | .notOpened => "Failed to open compiled unit: " ++ openFailure

/-- Why an entry point could not be called, or was not understood. -/
inductive CallError
  /-- The image exports no such symbol. -/
  | symbolNotFound (symbol : String)
  /-- The entry point returned neither of the two statuses that it may return. -/
  | unexpectedStatus (status : Int32)
deriving DecidableEq

/-- The text that describes a failure. -/
def CallError.message : CallError → String
  | .symbolNotFound symbol => s!"Couldn't find the entry point `{symbol}` in the compiled unit"
  | .unexpectedStatus status => s!"Entry point returned unexpected status {status.toInt}"

/-- What the status that an entry point returned means. -/
def Completion.ofStatus (status : Int32) : Except CallError Completion :=
  if status = 0 then .ok .completed
  else if status = 1 then .ok .panicked
  else .error (.unexpectedStatus status)

/-- A unit that is open. -/
structure LoadedUnit where
  name : String
  image : Image
  /-- The file that the unit was opened from. -/
  staged : Path

namespace LoadedUnit

/-- Where the library of the unit `name` is in a directory. -/
def libraryPath (directory : Path) (name : String) : Path :=
  directory.join (libraryName name)

/-- Creates the staging file for the library at `path`, beside it; returns its path. -/
def createStaged (path : Path) (name : String) : Effect IoError Path := fun w =>
  let directory := path.parent?.getD ⟨['.']⟩
  match w.files.createUnique directory (name.toList ++ ['-']) ".so".toList with
  | .ok (staged, files) => (.ok staged, { w with files })
  | .error e => (.error e, w)

/-- Removes the staging file at `path`. -/
def unstage {ε : Type} (path : Path) : Effect ε Unit := fun w =>
  (.ok (), { w with files := w.files.removeFile path })

/-- Copies the library at `path` to a staging file beside it; returns the path of the copy. -/
def stage (path : Path) (name : String) : Effect LoadError Path := do
  let staged ← Effect.mapError .notStaged (createStaged path name)
  match ← Effect.attempt (Effect.changeAnyway (·.copy path staged)) with
  | .ok () => return staged
  | .error e =>
    -- The staging file is there already, and does not outlive the failure.
    unstage staged
    Effect.fail (.notStaged e)

/-- The image in a staging file, if it holds one. -/
def openStaged? (path : Path) (w : World) : Option Image :=
  (w.files.content path).toOption.bind Content.image?

/-- Loads the library at `path` as the unit `name`, where `open?` is how the system opens an
image. -/
def loadWith (open? : Path → World → Option Image) (path : Path) (name : String) :
    Effect LoadError LoadedUnit := do
  if ← Effect.ask (·.files.isFile path) then
    let staged ← stage path name
    Effect.debug s!"Loading {name} from {staged}"
    -- It is the copy that is opened, never the file that the compiler wrote.
    match ← Effect.ask (open? staged) with
    | some image => return { name, image, staged }
    | none =>
      -- The copy does not outlive the failure.
      unstage staged
      Effect.fail .notOpened
  else Effect.fail (.missing path)

/-- Loads the library at `path` as the unit `name`. The staging file is new to the system, which
opens it as what it holds. -/
def load (path : Path) (name : String) : Effect LoadError LoadedUnit :=
  loadWith openStaged? path name

/-- Closes a unit. -/
def close {ε : Type} (unit : LoadedUnit) : Effect ε Unit :=
  unstage unit.staged

/-- A symbol as the loader reads it: one NUL at its end is not part of it. -/
def readSymbol (symbol : String) : List Char :=
  match symbol.toList.reverse with
  | last :: before => if last.toNat = 0 then before.reverse else symbol.toList
  | [] => []

/-- Calls the entry point `symbol` of a unit. -/
def invoke (unit : LoadedUnit) (symbol : String) : Effect CallError Completion := do
  let name := String.ofList (readSymbol symbol)
  match unit.image.status? name with
  | none => Effect.fail (.symbolNotFound symbol)
  | some status =>
    Effect.debug s!"Invoking {unit.name}::{symbol}"
    Effect.record (.called name)
    Effect.ofExcept (Completion.ofStatus status)

end LoadedUnit

end FragmentRunner
