import FragmentRunner.Text.ClusterPart

/-!
# Clusters

Cutting a text into clusters, the units that a reader takes for characters. A cluster ends before a
character that does not join it; whether one joins follows from its part, from the part of the
character before it, and from three things about the characters before that (`ClusterTail`): whether
they end in a picture to which another one can be joined, in half of a flag, or in a consonant with
which another one can grow together.

* `clusters` cuts a text. Nothing is lost: `clusters_flatten`.
-/

namespace FragmentRunner.Text

/-- How far a pattern of two ends with something in between has been seen. -/
inductive Pending
  /-- Its first end has not been seen. -/
  | absent
  /-- Its first end has been seen. -/
  | started
  /-- What makes the second end join has been seen as well. -/
  | ready
deriving DecidableEq

/-- What is known about the characters before a position. -/
structure ClusterTail where
  /-- The part of the last of them. -/
  last : ClusterPart
  /-- Ready after a picture, its marks and a joiner. -/
  picture : Pending
  /-- Ready after a consonant and marks, a linker among them. -/
  conjunct : Pending
  /-- Whether an odd number of flag letters stands at the end. -/
  halfFlag : Bool

namespace ClusterTail

/-- Whether a character with the given part joins the cluster before it. -/
def joins (tail : ClusterTail) (part : ClusterPart) : Bool :=
  match tail.last, part with
  | .carriageReturn, .lineFeed => true
  -- The order of the cases is that of the rules: what ends a cluster comes before what joins.
  | .carriageReturn, _ | .lineFeed, _ | .control, _ => false
  | _, .carriageReturn | _, .lineFeed | _, .control => false
  | .leading, .leading | .leading, .vowel | .leading, .openSyllable
  | .leading, .closedSyllable => true
  | .openSyllable, .vowel | .openSyllable, .trailing | .vowel, .vowel | .vowel, .trailing => true
  | .closedSyllable, .trailing | .trailing, .trailing => true
  | _, .extend | _, .linker | _, .nonJoiner | _, .joiner | _, .spacingMark => true
  | .prepended, _ => true
  | _, .consonant => tail.conjunct = .ready
  | _, .pictograph => tail.picture = .ready
  | _, .regional => tail.halfFlag
  | _, _ => false

/-- What is known about a picture after a character with the given part. -/
def nextPicture (tail : ClusterTail) : ClusterPart → Pending
  | .pictograph => .started
  | .extend | .linker | .nonJoiner => if tail.picture = .started then .started else .absent
  | .joiner => if tail.picture = .started then .ready else .absent
  | _ => .absent

/-- What is known about a consonant after a character with the given part. -/
def nextConjunct (tail : ClusterTail) : ClusterPart → Pending
  | .consonant => .started
  | .linker => if tail.conjunct = .absent then .absent else .ready
  | .extend | .joiner => tail.conjunct
  | _ => .absent

/-- What is known after a character with the given part. -/
def next (tail : ClusterTail) (part : ClusterPart) : ClusterTail :=
  { last := part
    picture := tail.nextPicture part
    conjunct := tail.nextConjunct part
    halfFlag := part = .regional && !tail.halfFlag }

/-- What is known at the beginning of a text: no character joins. -/
def start : ClusterTail :=
  { last := .control, picture := .absent, conjunct := .absent, halfFlag := false }

end ClusterTail

/-- The clusters of a text that goes on with the given characters, where `current` is the last
cluster so far, backwards. -/
def clustersFrom (tail : ClusterTail) (current : List Char) : List Char → List (List Char)
  | [] => [current.reverse]
  | c :: rest =>
    let part := clusterPart c
    if tail.joins part then clustersFrom (tail.next part) (c :: current) rest
    else current.reverse :: clustersFrom (tail.next part) [c] rest

/-- The clusters of a text. -/
def clusters : List Char → List (List Char)
  | [] => []
  | c :: rest => clustersFrom (ClusterTail.start.next (clusterPart c)) [c] rest

theorem clustersFrom_flatten (tail : ClusterTail) (current s : List Char) :
    (clustersFrom tail current s).flatten = current.reverse ++ s := by
  induction s generalizing tail current with
  | nil => simp [clustersFrom]
  | cons c rest ih =>
    simp only [clustersFrom]
    split <;> simp [ih]

theorem clusters_flatten (s : List Char) : (clusters s).flatten = s := by
  cases s with
  | nil => rfl
  | cons c rest => simp [clusters, clustersFrom_flatten]

end FragmentRunner.Text
