import FragmentRunner.Text.Blank
import FragmentRunner.Text.Lines
import FragmentRunner.World

/-!
# The lines remembered from earlier

The dialogue remembers the lines that were entered, the last `limit` of them, and can keep them in a
file. Lines that begin with white space are not remembered, nor is a line that repeats the one before
it.

The file begins with a line that marks it, followed by the remembered lines, with backslashes and
line feeds escaped. A file without the mark is read, too, as lines without escapes. A line that
cannot be decoded ends the reading of a file; a line with an unknown escape is taken as it stands.

* `LineHistory.add` remembers a line.
* `LineHistory.decode` and `LineHistory.encode` read and write the content of a file.
* `LineHistory.load` and `LineHistory.save` do so with a file; what fails there is let pass.

Main statements: `add_length_le`, the limit is kept, and `unescape_escape`, a line is read back as it
was written.
-/

namespace FragmentRunner

/-- The lines remembered, the oldest first. -/
structure LineHistory where
  limit : Nat
  entries : List String := []
  /-- Whether lines were remembered that are in no file yet. -/
  hasNews : Bool := false
deriving DecidableEq

namespace LineHistory

/-- Whether a line is not worth remembering. -/
def ignores (history : LineHistory) (line : String) : Bool :=
  history.limit = 0 || line.isEmpty || Text.startsBlank line.toList
    || history.entries.getLast? = some line

/-- Remembers a line, and forgets the oldest one if there are as many as the limit allows. -/
def add (history : LineHistory) (line : String) : LineHistory :=
  if history.ignores line then history
  else
    let kept :=
      if history.entries.length = history.limit then history.entries.drop 1 else history.entries
    { history with entries := kept ++ [line], hasNews := true }

/-! ## Escapes -/

/-- A line with its backslashes and line feeds escaped. -/
def escape : List Char → List Char
  | [] => []
  | '\\' :: rest => '\\' :: '\\' :: escape rest
  | '\n' :: rest => '\\' :: 'n' :: escape rest
  | c :: rest => c :: escape rest

/-- The line that was escaped, unless it holds a backslash that escapes nothing. -/
def unescape? : List Char → Option (List Char)
  | [] => some []
  | '\\' :: '\\' :: rest => (unescape? rest).map ('\\' :: ·)
  | '\\' :: 'n' :: rest => (unescape? rest).map ('\n' :: ·)
  | '\\' :: _ => none
  | c :: rest => (unescape? rest).map (c :: ·)

/-! ## Files -/

/-- The first line of a file. -/
def mark : String := "#V2"

/-- The content of a file that keeps the lines. -/
def encode (history : LineHistory) : List UInt8 :=
  let lines := mark.toList :: history.entries.map fun line => escape line.toList
  Text.Utf8.encode (lines.flatMap fun line => line ++ ['\n'])

/-- Remembers the lines of a file as far as they can be decoded; `escaped` says whether they are
escaped. Also returns the lines whose escapes are unknown, and whether all lines were decoded. -/
def addLines (escaped : Bool) (history : LineHistory) :
    List (Option String) → LineHistory × List String × Bool
  | [] => (history, [], true)
  -- What follows a line that cannot be decoded is not read.
  | none :: _ => (history, [], false)
  | some line :: rest =>
    if line.isEmpty then addLines escaped history rest
    else
      match if escaped then unescape? line.toList else some line.toList with
      | some chars => addLines escaped (history.add (String.ofList chars)) rest
      -- A line with an unknown escape is kept as it stands.
      | none =>
        let (history, strange, complete) := addLines escaped (history.add line) rest
        (history, line :: strange, complete)

/-- Remembers the lines of a file; also returns those whose escapes are unknown. The lines of a file
are no news once all of them are read. -/
def decode (history : LineHistory) (content : List UInt8) : LineHistory × List String :=
  let (history, strange, complete) :=
    match Text.decodedLines content with
    | [] => (history, [], true)
    | none :: _ => (history, [], false)
    | some first :: rest =>
      -- Without the mark the first line is a line like any other.
      if first = mark then addLines true history rest
      else addLines false (history.add first) rest
  (if complete then { history with hasNews := false } else history, strange)

/-- The lines kept in the file at `path`, if there is one. -/
def load {ε : Type} (limit : Nat) (path : Path) : Effect ε LineHistory := do
  match ← Effect.ask (·.files.read path) with
  | .error _ => return { limit }
  | .ok content =>
    let (history, strange) := decode { limit } content
    strange.forM fun line => Effect.warn ("bad escaped line: " ++ line)
    return history

/-- Writes the lines to the file at `path`, if there is news. -/
def save {ε : Type} (history : LineHistory) (path : Path) : Effect ε Unit := fun w =>
  if history.entries.isEmpty || !history.hasNews then (.ok (), w)
  else
    match w.files.write path (.bytes history.encode) with
    | .ok files => (.ok (), { w with files })
    -- A history that cannot be kept is no reason to fail.
    | .error _ => (.ok (), w)

/-! ## Laws -/

theorem add_length_le {history : LineHistory} (h : history.entries.length ≤ history.limit)
    (line : String) : (history.add line).entries.length ≤ (history.add line).limit := by
  unfold add
  split
  · exact h
  · rename_i hi
    have hpos : history.limit ≠ 0 := by
      intro h0
      simp [ignores, h0] at hi
    simp only [List.length_append, List.length_cons, List.length_nil]
    split
    · simp only [List.length_drop]; omega
    · omega

theorem unescape_escape (line : List Char) : unescape? (escape line) = some line := by
  induction line using escape.induct with
  | case1 => rfl
  | case2 rest ih => simp [escape, unescape?, ih]
  | case3 rest ih => simp [escape, unescape?, ih]
  | case4 c rest h1 h2 ih =>
    rw [escape]
    · rw [unescape?]
      · simp [ih]
      all_goals simp_all
    all_goals simp_all

end LineHistory

end FragmentRunner
