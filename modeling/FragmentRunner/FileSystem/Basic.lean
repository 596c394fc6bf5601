import FragmentRunner.Image
import FragmentRunner.IoError

/-!
# The file system as a value

A file system maps locations to nodes. A location is the list of names that lead to it from the
root, which is always there. `walk` follows the steps of a path and fails where the operating
system would: every step but the last has to end in a directory, and a directory may be closed to
those who come by.

There are no links, neither symbolic nor hard ones: what stands at one place stands nowhere else.
Whatever is said of all file systems is said of those without links. Room on disk and the permission
to write a file are left out, too: a file that is there can be written, and whether it can be read
is up to what it holds. Where nothing can be created in a directory, the cause is want of
permission, even if it is that the directory was removed while it was the current one.

The view of a file system is `node?`; `node?_put` and `node?_erase` say what the two changes do to
it. Besides, only those who make up names look at the entries.
-/

namespace FragmentRunner

/-- The names that lead from the root to a file or directory. -/
abbrev Location := List Name

/-- What can be done in a directory. -/
inductive Access
  /-- What is in it can be reached, and files and directories can be created in it. -/
  | full
  /-- What is in it can be reached, but nothing can be created. -/
  | readOnly
  /-- Nothing in it can be reached, and nothing created. -/
  | closed
deriving DecidableEq

/-- What stands at a location. -/
inductive Node
  | directory (access : Access)
  /-- A regular file; `executable` tells whether it can be started as a program. -/
  | file (content : Content) (executable : Bool)
deriving DecidableEq

/-- Whether a node is a directory. -/
def Node.isDirectory : Node → Bool
  | .directory _ => true
  | .file .. => false

/-- The letters and digits of made-up names. -/
def uniqueLetters : List Char :=
  "0123456789abcdefghijklmnopqrstuvwxyz".toList

/-- How many letters a made-up name has. -/
def uniqueLength : Nat := 6

/-- The number `n` in base 36, with `uniqueLength` digits. -/
def uniquePart (n : Nat) : Name :=
  (List.range uniqueLength).map fun i =>
    uniqueLetters.getD (n / Nat.pow 36 (uniqueLength - 1 - i) % 36) '0'

/-- How names are made up. A source may look at all that there is, and tries one name after the
other; whether a name is in use is for others to find out. -/
structure NameSource where
  /-- The letters of the name that is tried after so many others. -/
  letters : List (Location × Node) → Nat → Name
  noSlash : ∀ entries tries, '/' ∉ letters entries tries

/-- Letters are none that separate names. -/
theorem noSlash_uniquePart (n : Nat) : '/' ∉ uniquePart n := by
  intro hslash
  obtain ⟨i, -, hi⟩ := List.mem_map.mp hslash
  generalize n / Nat.pow 36 (uniqueLength - 1 - i) % 36 = digit at hi
  rw [List.getD_eq_getElem?_getD] at hi
  -- Past the end of the letters a digit would stand, which is no slash either.
  cases hfound : uniqueLetters[digit]? with
  | none =>
    rw [hfound] at hi
    exact absurd hi (by decide)
  | some letter =>
    rw [hfound, Option.getD_some] at hi
    have hletters : '/' ∉ uniqueLetters := by decide
    exact hletters (hi ▸ List.mem_of_getElem? hfound)

/-- The source that counts. -/
def NameSource.counting : NameSource where
  letters _ := uniquePart
  noSlash _ := noSlash_uniquePart

/-- Files and directories, the directory from which relative paths start, and how names are made up
for new files. -/
structure FileSystem where
  entries : List (Location × Node)
  here : Location
  names : NameSource := .counting

namespace FileSystem

/-- What stands at a location, if anything does. -/
def node? (fs : FileSystem) (loc : Location) : Option Node :=
  if loc = [] then some (.directory .full) else fs.entries.lookup loc

/-- The file system with `node` at `loc`, in the place of what was there. -/
def put (fs : FileSystem) (loc : Location) (node : Node) : FileSystem :=
  { fs with entries := (loc, node) :: fs.entries.filter (·.1 ≠ loc) }

/-- The file system with nothing at `loc`. -/
def erase (fs : FileSystem) (loc : Location) : FileSystem :=
  { fs with entries := fs.entries.filter (·.1 ≠ loc) }

theorem lookup_filter_ne {α β : Type} [BEq α] [LawfulBEq α] [DecidableEq α] (entries : List (α × β))
    (key other : α) :
    (entries.filter (·.1 ≠ key)).lookup other
      = if other = key then none else entries.lookup other := by
  induction entries with
  | nil => simp
  | cons entry rest ih =>
    obtain ⟨own, value⟩ := entry
    by_cases hown : own = key
    · subst hown
      by_cases hother : other = own
      · subst hother; simpa using ih
      · have hne : (other == own) = false := by simpa using hother
        simpa [List.lookup_cons, hother, hne] using ih
    · by_cases hother : other = own
      · subst hother; simp [hown]
      · have hne : (other == own) = false := by simpa using hother
        simpa [List.lookup_cons, hown, hne] using ih

theorem node?_put {fs : FileSystem} {loc : Location} (hloc : loc ≠ []) (node : Node)
    (other : Location) :
    (fs.put loc node).node? other = if other = loc then some node else fs.node? other := by
  by_cases hroot : other = []
  · subst hroot; simp [node?, Ne.symm hloc]
  · by_cases hother : other = loc
    · subst hother; simp [node?, put, hroot]
    · have hne : (other == loc) = false := by simpa using hother
      simp only [node?, put, hroot, hother, if_false, List.lookup_cons, hne]
      simpa [hother] using lookup_filter_ne fs.entries loc other

theorem node?_erase {fs : FileSystem} {loc : Location} (hloc : loc ≠ []) (other : Location) :
    (fs.erase loc).node? other = if other = loc then none else fs.node? other := by
  by_cases hroot : other = []
  · subst hroot; simp [node?, Ne.symm hloc]
  · simp only [node?, erase, hroot, if_false]
    exact lookup_filter_ne fs.entries loc other

/-- The longest name that a directory can hold, in bytes. -/
def nameLimit : Nat := 255

/-- Whether a name is longer than a directory can hold. -/
def isTooLong (name : Name) : Bool :=
  nameLimit < (String.ofList name).utf8ByteSize

/-- Where one step leads from `loc`, whatever stands there. -/
def next (loc : Location) (step : Name) : Location :=
  if step = ['.'] then loc
  -- The root is its own parent.
  else if step = Path.up then loc.dropLast
  else loc ++ [step]

/-- The location that `steps` lead to from `loc`. Every location on the way is a directory that can
be passed; nothing need stand at the last one. -/
def walk (fs : FileSystem) : Location → List Name → Except IoError Location
  | loc, [] => .ok loc
  | loc, step :: rest =>
    match fs.node? loc with
    | none => .error .notFound
    | some (.file ..) => .error .notADirectory
    | some (.directory access) =>
      if access = .closed then .error .permissionDenied
      else if isTooLong step then .error .nameTooLong
      else walk fs (next loc step) rest

/-- Where a path starts. -/
def startOf (fs : FileSystem) (p : Path) : Location :=
  if p.isAbsolute then [] else fs.here

/-- The longest path that is accepted, in bytes. -/
def pathLimit : Nat := 4095

/-- Fails unless a path can name something at all. -/
def checkPath (p : Path) : Except IoError Unit :=
  if p.hasNul then .error .nulInPath
  else if p.chars.isEmpty then .error .notFound
  else if pathLimit < p.byteSize then .error .nameTooLong
  else .ok ()

/-- The location that a path names, whether or not something stands there. -/
def locate (fs : FileSystem) (p : Path) : Except IoError Location := do
  checkPath p
  fs.walk (fs.startOf p) p.steps

/-- The path of the current directory, from the root. -/
def currentDirectory (fs : FileSystem) : Path :=
  ⟨'/' :: Path.ofSegments fs.here⟩

/-- Whether a name is one that a path can spell. -/
def isSpellable (name : Name) : Bool :=
  !Path.isIdle name && name ≠ Path.up && !name.contains '/' && !(Path.mk name).hasNul
    && !isTooLong name

/-- Whether the current directory is in the tree: it is there, and so are the directories above it,
all under names that paths can spell. A directory that was removed while it was the current one has
no such name. -/
def isRooted (fs : FileSystem) : Bool :=
  fs.here.all isSpellable &&
    (List.range (fs.here.length + 1)).all fun depth =>
      (fs.node? (fs.here.take depth)).any Node.isDirectory

/-- A path spelled from the root. For a relative path this takes the path of the current directory,
which can be told whether or not the directories above it can be passed. -/
def absolute? (fs : FileSystem) (p : Path) : Option Path :=
  if p.isAbsolute || fs.isRooted then some (Path.absolute fs.currentDirectory p) else none

end FileSystem

end FragmentRunner
