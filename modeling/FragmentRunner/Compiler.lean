import FragmentRunner.FileSystem.Operations

/-!
# What a compiler does

A compiler is seen from outside: given its argument list it writes to standard error, may leave one
file or directory behind, and ends. A `CompilerPlan` fixes all three for one start of a compiler;
another start may have another plan. Where the artifact goes follows from the arguments
(`artifactPath?`): the directory of the first `--out-dir`, under the name of the first
`--crate-name`.
-/

namespace FragmentRunner

/-- What a compiler leaves behind. -/
inductive Artifact
  | nothing
  | directory
  | file (content : Content)
deriving DecidableEq

/-- How a program ended. -/
inductive ExitStatus
  | exited (code : UInt8)
  /-- Ended by the signal that cannot be caught. -/
  | killed
deriving DecidableEq

namespace ExitStatus

/-- Whether a program ended as programs do that succeeded. -/
def succeeded (status : ExitStatus) : Bool :=
  status = .exited 0

/-- The text that describes how a program ended. -/
def description : ExitStatus → String
  | .exited code => "exit status: " ++ toString code.toNat
  | .killed => "signal: 9 (SIGKILL)"

end ExitStatus

/-- What a compiler does, at one start. -/
structure CompilerPlan where
  /-- The bytes that it writes to standard error. -/
  diagnostics : List UInt8
  artifact : Artifact
  exit : ExitStatus

/-- The name that a shared library has on disk. -/
def libraryName (name : String) : Path :=
  .ofString ("lib" ++ name ++ ".so")

/-- The argument after the first occurrence of `flag`. -/
def valueAfter? (flag : String) : List String → Option String
  | first :: second :: rest => if first = flag then some second else valueAfter? flag (second :: rest)
  | _ => none

/-- Where a compiler that is started with the command line `command` puts its artifact. The first
entry is its own name, which it does not read. -/
def artifactPath? (command : List String) : Option Path := do
  let directory ← valueAfter? "--out-dir" command.tail
  let name ← valueAfter? "--crate-name" command.tail
  return (Path.ofString directory).join (libraryName name)

/-- The file system with the artifact of a compiler that was started with the command line
`command`. What cannot be written is not written. -/
def Artifact.leave (artifact : Artifact) (command : List String) (fs : FileSystem) : FileSystem :=
  match artifactPath? command, artifact with
  | none, _ | _, .nothing => fs
  | some path, .directory => (fs.createDirectory path).toOption.getD fs
  | some path, .file content => (fs.write path content).toOption.getD fs

end FragmentRunner
