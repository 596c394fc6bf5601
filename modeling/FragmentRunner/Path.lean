import FragmentRunner.Text.Pieces

/-!
# Paths

A path is the text that names a file, kept as it was spelled: nothing is cleaned up when paths are
joined, and two spellings of one file are two paths. A path is read in segments, the texts between
its slashes. Segments that are empty or a single dot are idle: they lead nowhere, and only the
leading dot of a relative path counts as a component.

* `join` puts a relative path below another; an absolute one replaces it.
* `parent?`, `fileName?` and `fileStem?` read the last component, keeping the spelling of the rest.
* `stripFirst?` drops the first component if it is a given name.
* `ancestors` are the path and what is above it, as far as its spelling tells.
* `absolute` spells a path from the root, without idle segments.
-/

namespace FragmentRunner

/-- A file or directory name, or any other text between two slashes. -/
abbrev Name := List Char

/-- A path as it was spelled. -/
structure Path where
  chars : List Char
deriving DecidableEq, Inhabited

namespace Path

/-- The path with the given spelling. -/
def ofString (s : String) : Path := ⟨s.toList⟩

/-- The spelling of a path. -/
def spelling (p : Path) : String := String.ofList p.chars

instance : ToString Path := ⟨Path.spelling⟩

/-- The empty path, which names nothing. -/
def empty : Path := ⟨[]⟩

/-- The path of the root directory. -/
def root : Path := ⟨['/']⟩

/-- Whether a path starts at the root. -/
def isAbsolute (p : Path) : Bool :=
  p.chars.head? = some '/'

/-- Whether a path ends with a slash, and so can name a directory only. -/
def endsWithSlash (p : Path) : Bool :=
  p.chars.getLast? = some '/'

/-- Whether a path holds the character NUL, which no file name can. -/
def hasNul (p : Path) : Bool :=
  p.chars.any fun c => c.toNat = 0

/-- `q` as seen from the directory `p`: one slash stands between them unless `p` is empty or ends
with one, and an absolute `q` replaces `p`. -/
def join (p q : Path) : Path :=
  if q.isAbsolute then q
  else if p.chars.isEmpty || p.endsWithSlash then ⟨p.chars ++ q.chars⟩
  else ⟨p.chars ++ '/' :: q.chars⟩

/-- How many bytes a path has in UTF-8. -/
def byteSize (p : Path) : Nat :=
  p.spelling.utf8ByteSize

/-- The texts between the slashes. -/
def segments (s : List Char) : List Name :=
  Text.pieces (· = '/') s

/-- The text with the given segments. -/
def ofSegments (segments : List Name) : List Char :=
  List.intercalate ['/'] segments

/-- Whether a segment leads nowhere. -/
def isIdle (segment : Name) : Bool :=
  segment.isEmpty || segment = ['.']

/-- The name of the directory above. -/
def up : Name := ['.', '.']

/-- The segments of a path that lead somewhere, double dots among them. -/
def names (p : Path) : List Name :=
  (segments p.chars).filter fun segment => !isIdle segment

/-- The path that names lead to from `p`, one after the other. -/
def extend (p : Path) (names : List Name) : Path :=
  names.foldl (fun q name => q.join ⟨name⟩) p

/-- The steps to take from the start of a path, single and double dots among them. -/
def steps (p : Path) : List Name :=
  (segments p.chars).filter fun segment => !segment.isEmpty

/-- The start of a path that is a component of its own, the root or a leading dot, and the text
after it. -/
def splitStart (p : Path) : List Char × List Char :=
  match p.chars with
  | '/' :: rest => (['/'], rest)
  | ['.'] => (['.'], [])
  | '.' :: '/' :: rest => (['.'], '/' :: rest)
  | chars => ([], chars)

/-- The segments after the start of a path from the last one back, as far as they follow a
component. -/
def reversedBody (p : Path) : List Name :=
  (segments p.splitStart.2).reverse.dropWhile isIdle

/-- The path without its last component; the root and the empty path have none. What is left keeps
its spelling, less the idle segments at its end. -/
def parent? (p : Path) : Option Path :=
  match p.reversedBody with
  -- The idle segments in front of the last component go with it.
  | _ :: before => some ⟨p.splitStart.1 ++ ofSegments (before.dropWhile isIdle).reverse⟩
  | [] => if p.splitStart.1 = ['.'] then some empty else none

/-- The first `count` ancestors of a path: the path itself, its parent, the parent of that, and so
on, down to the last one that has a parent. -/
def ancestorsUpTo : Nat → Path → List Path
  | 0, _ => []
  | count + 1, p =>
    match p.parent? with
    | none => []
    | some parent => p :: ancestorsUpTo count parent

/-- The path itself, its parent, the parent of that, and so on, down to the last one that has a
parent. A path has fewer of them than characters and one. -/
def ancestors (p : Path) : List Path :=
  ancestorsUpTo (p.chars.length + 1) p

/-- The last component, if it is a name. -/
def fileName? (p : Path) : Option Name :=
  match p.reversedBody with
  | last :: _ => if last = up then none else some last
  | [] => none

/-- A file name without its extension, the part from its last dot on. A name that has a dot only
at its start has no extension. -/
def stem (name : Name) : Name :=
  -- Without a dot, or with one at its start only, a name is all stem.
  match name.reverse.dropWhile (· ≠ '.') with
  | [] | [_] => name
  | _ :: before => before.reverse

/-- The last component without its extension, if it is a name. -/
def fileStem? (p : Path) : Option Name :=
  p.fileName?.map stem

/-- The rest of a path after its first component, if that is `name`; idle segments at either end
of the rest are dropped. -/
def stripFirst? (name : Name) (p : Path) : Option Path :=
  -- The start of a path is a segment too: the empty one of an absolute path matches no name.
  match segments p.chars with
  | first :: others =>
    if first = name then
      some ⟨ofSegments ((others.dropWhile isIdle).reverse.dropWhile isIdle).reverse⟩
    else none
  | [] => none

/-- Where an absolute path starts: exactly two leading slashes are kept as two. -/
def absoluteStart (p : Path) : Path :=
  match p.chars with
  | '/' :: '/' :: '/' :: _ => root
  | '/' :: '/' :: _ => ⟨['/', '/']⟩
  | _ => root

/-- The path spelled from the root, where `here` is the current directory: idle segments are
dropped, while double dots and a trailing slash are kept. -/
def absolute (here p : Path) : Path :=
  let start := if p.isAbsolute then p.absoluteStart else here
  let spelled := start.extend p.names
  if p.endsWithSlash then spelled.join empty else spelled

end Path

end FragmentRunner
