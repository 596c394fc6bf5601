import FragmentRunner.Text.Pieces
import FragmentRunner.Text.Utf8

/-!
# Lines

A line feed ends a line and takes a carriage return in front of it along. What follows the last
line feed is a line of its own, unless it is empty, and keeps its carriage return. Bytes are cut in
the same way before they are decoded, so one ill-formed line leaves the others readable.
-/

namespace FragmentRunner.Text

/-- A line without the carriage return that ends it, if one does. -/
def dropReturn {α : Type} [DecidableEq α] (ret : α) (line : List α) : List α :=
  if line.getLast? = some ret then line.dropLast else line

/-- The lines of a sequence with the given line feed and carriage return. -/
def linesBy {α : Type} [DecidableEq α] (feed ret : α) (s : List α) : List (List α) :=
  let all := pieces (· = feed) s
  let unfinished := all.getLast?.getD []
  -- The last piece is not ended by a line feed, and is no line if nothing is in it.
  all.dropLast.map (dropReturn ret) ++ if unfinished.isEmpty then [] else [unfinished]

/-- The lines of a text. -/
def lines (s : List Char) : List (List Char) :=
  linesBy '\n' '\r' s

/-- The lines that bytes encode; a line that is not well-formed UTF-8 is `none`. -/
def decodedLines (bytes : List UInt8) : List (Option String) :=
  (linesBy 0x0A 0x0D bytes).map fun line => (Utf8.decode? line).map String.ofList

end FragmentRunner.Text
