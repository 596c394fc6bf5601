import FragmentRunner.FileSystem.Basic

/-!
# Operations on files

Looking at, reading, writing, creating, copying and removing what a path names. An operation either
fails with its cause and leaves the file system as it was, or returns the new one. Only two may fail
halfway: `createDirectories`, after it has created some of the directories asked for, and `copy`,
after it has copied what can be read of a file.
-/

namespace FragmentRunner.FileSystem

/-- What a path names. -/
def status (fs : FileSystem) (p : Path) : Except IoError Node := do
  let loc ← fs.locate p
  match fs.node? loc with
  | none => .error .notFound
  | some (.file content executable) =>
    -- With a slash at its end a path can name a directory only.
    if p.endsWithSlash then .error .notADirectory else .ok (.file content executable)
  | some (.directory access) => .ok (.directory access)

/-- Whether a path names something. -/
def has (fs : FileSystem) (p : Path) : Bool :=
  match fs.status p with
  | .ok _ => true
  | .error _ => false

/-- Whether a path names a directory. -/
def isDirectory (fs : FileSystem) (p : Path) : Bool :=
  match fs.status p with
  | .ok (.directory _) => true
  | _ => false

/-- Whether a path names a regular file. -/
def isFile (fs : FileSystem) (p : Path) : Bool :=
  match fs.status p with
  | .ok (.file ..) => true
  | _ => false

/-- The content of the file that a path names. -/
def content (fs : FileSystem) (p : Path) : Except IoError Content := do
  match ← fs.status p with
  | .file content _ => .ok content
  | .directory _ => .error .isADirectory

/-- The bytes of the file that a path names. -/
def read (fs : FileSystem) (p : Path) : Except IoError (List UInt8) := do
  let content ← fs.content p
  match content.fault? with
  | none => .ok content.toBytes
  | some cause => .error cause

/-- Fails unless the file at `p` can be started as a program. -/
def checkExecutable (fs : FileSystem) (p : Path) : Except IoError Unit := do
  match ← fs.status p with
  | .file _ true => .ok ()
  | _ => .error .permissionDenied

/-- The file system with `node` at the vacant location `loc`, if the directory above allows it. -/
def addAt (fs : FileSystem) (loc : Location) (node : Node) : Except IoError FileSystem :=
  match fs.node? loc.dropLast with
  | some (.directory .full) => .ok (fs.put loc node)
  | _ => .error .permissionDenied

/-- The location of the file that a path lets be written. One that ends with a slash lets none be
written: its last step is not looked at, only the way there. -/
def locateFile (fs : FileSystem) (p : Path) : Except IoError Location := do
  checkPath p
  if p.endsWithSlash then
    let _ ← fs.walk (fs.startOf p) (p.steps.dropLast ++ [['.']])
    .error .isADirectory
  else fs.walk (fs.startOf p) p.steps

/-- The file system in which the file at `p` holds `content`; the file is created if need be. -/
def write (fs : FileSystem) (p : Path) (content : Content) : Except IoError FileSystem := do
  let loc ← fs.locateFile p
  match fs.node? loc with
  | some (.directory _) => .error .isADirectory
  | some (.file _ executable) => .ok (fs.put loc (.file content executable))
  | none => fs.addAt loc (.file content false)

/-- The file system with a new file at `p`; nothing may stand there yet. -/
def createFile (fs : FileSystem) (p : Path) (content : Content) : Except IoError FileSystem := do
  let loc ← fs.locateFile p
  match fs.node? loc with
  | some _ => .error .alreadyExists
  | none => fs.addAt loc (.file content false)

/-- Fails unless a file can be created in the directory at `p`. What is created has no name, so
nothing is left of it. -/
def createNameless (fs : FileSystem) (p : Path) : Except IoError Unit := do
  match ← fs.status p with
  | .directory .full => .ok ()
  | .directory _ => .error .permissionDenied
  | .file .. => .error .notADirectory

/-- The file system with a new directory at `p`; nothing may stand there yet. -/
def createDirectory (fs : FileSystem) (p : Path) : Except IoError FileSystem := do
  let loc ← fs.locate p
  match fs.node? loc with
  | some _ => .error .alreadyExists
  | none => fs.addAt loc (.directory .full)

/-- Creates the directory at `p`, unless there is one. -/
def ensureDirectory (fs : FileSystem) (p : Path) : FileSystem × Except IoError Unit :=
  match fs.createDirectory p with
  | .ok fs' => (fs', .ok ())
  | .error e => (fs, if fs.isDirectory p then .ok () else .error e)

/-- Creates the first of the given directories, each of which is in the next one; where the way to
it is missing, the others are created before. -/
def ensureFirst (fs : FileSystem) : List Path → FileSystem × Except IoError Unit
  | [] => (fs, .ok ())
  | p :: above =>
    match fs.ensureDirectory p with
    -- The way to `p` is missing: make the directories above, and try again.
    | (_, .error .notFound) =>
      match fs.ensureFirst above with
      | (fs', .ok ()) => fs'.ensureDirectory p
      | failed => failed
    | done => done

/-- Creates the directory at `p` and those above it, as far as they are missing. -/
def createDirectories (fs : FileSystem) (p : Path) : FileSystem × Except IoError Unit :=
  fs.ensureFirst p.ancestors

/-- The file system without the file at `p`; a path that names no file changes nothing. -/
def removeFile (fs : FileSystem) (p : Path) : FileSystem :=
  match fs.status p, fs.locate p with
  | .ok (.file ..), .ok loc => fs.erase loc
  | _, _ => fs

/-- Copies the file at `source` into the file at `target`, as far as it can be read. -/
def copy (fs : FileSystem) (source target : Path) : FileSystem × Except IoError Unit :=
  match fs.content source with
  | .error e => (fs, .error e)
  | .ok content =>
    match fs.write target content.legible, content.fault? with
    | .error e, _ => (fs, .error e)
    | .ok fs', none => (fs', .ok ())
    | .ok fs', some cause => (fs', .error cause)

/-- How many names are tried for a new file. -/
def uniqueAttempts : Nat := 65536

/-- Creates an empty file at the first of `attempts` paths where nothing stands; the paths are
`candidate tries`, `candidate (tries + 1)` and so on. -/
def createFirst (fs : FileSystem) (candidate : Nat → Path) :
    (attempts tries : Nat) → Except IoError (Path × FileSystem)
  | 0, _ => .error .alreadyExists
  | attempts + 1, tries =>
    match fs.createFile (candidate tries) (.bytes []) with
    | .ok fs' => .ok (candidate tries, fs')
    -- Only a name that is taken is a reason to try the next one.
    | .error .alreadyExists => createFirst fs candidate attempts (tries + 1)
    | .error e => .error e

/-- The path of a directory that a file is made up in: a relative path is taken from the root. -/
def directoryFor (fs : FileSystem) (dir : Path) : Except IoError Path :=
  if dir.isAbsolute then .ok dir
  else if fs.isRooted then .ok (fs.currentDirectory.join dir)
  else .error .notFound

/-- Creates an empty file in the directory `dir` under an unused name that starts with `lead` and
ends with `tail`. Returns its path, which is absolute. -/
def createUnique (fs : FileSystem) (dir : Path) (lead tail : Name) :
    Except IoError (Path × FileSystem) := do
  let dir ← fs.directoryFor dir
  fs.createFirst (fun tries => dir.join ⟨lead ++ fs.names.letters fs.entries tries ++ tail⟩)
    uniqueAttempts 0

/-- The location that `steps` lead to from `loc`, whatever stands on the way. -/
def follow : Location → List Name → Location
  | loc, [] => loc
  | loc, step :: rest => follow (next loc step) rest

/-- The file system with a directory at `loc`, whatever stood there. -/
def settle (fs : FileSystem) (loc : Location) : FileSystem :=
  match fs.node? loc with
  | some (.directory _) => fs
  | _ => fs.put loc (.directory .full)

/-- The file system with `node` at `p` and directories above it, whatever stood there: how a file
system is set up. -/
def place (fs : FileSystem) (p : Path) (node : Node) : FileSystem :=
  let loc := follow (fs.startOf p) p.steps
  let above := (List.range loc.length).map loc.take
  if loc.isEmpty then fs else (above.foldl settle fs).put loc node

end FragmentRunner.FileSystem
