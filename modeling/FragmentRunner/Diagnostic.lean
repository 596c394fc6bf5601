import FragmentRunner.Text.Blank
import FragmentRunner.Text.Digit
import FragmentRunner.Text.Lines
import FragmentRunner.World

/-!
# Compiler diagnostics in one line

The compiler writes its diagnostics to a log file. `summary?` keeps the first line of a log that is
not blank, without the source location that it may begin with, and with single spaces between its
words. A location is a path, a line number and a column number, each followed by a colon; the path
is not empty, may hold blanks and colons, and the location ends at a blank or at the end of the
line. Of several places where a location could end, the first counts.
-/

namespace FragmentRunner

namespace Diagnostic

/-- The text after a run of one or more decimal digits and a colon. -/
def afterNumber? (text : List Char) : Option (List Char) :=
  match text.takeWhile Text.isDecimalDigit, text.dropWhile Text.isDecimalDigit with
  | _ :: _, ':' :: rest => some rest
  | _, _ => none

/-- The text after a colon and two numbers with a colon each, if a blank or nothing follows. -/
def afterPosition? : List Char → Option (List Char)
  | ':' :: text => do
    let rest ← afterNumber? (← afterNumber? text)
    if rest.isEmpty || Text.startsBlank rest then some rest else none
  | _ => none

/-- The text after the first position in a text. -/
def afterFirstPosition? : List Char → Option (List Char)
  | [] => none
  | c :: rest => (afterPosition? (c :: rest)).or (afterFirstPosition? rest)

/-- A line without the location that it begins with, if it begins with one. -/
def stripLocation (line : List Char) : List Char :=
  -- One character at least is the path, and it may be a colon.
  match Text.trimStart line with
  | [] => line
  | _ :: rest => (afterFirstPosition? rest).getD line

/-- Whether a line has anything but white space. -/
def isMeaningful (line : List Char) : Bool :=
  line.any fun c => !Text.isBlank c

/-- The summary of a log, if it has one. -/
def summary? (log : List Char) : Option (List Char) := do
  let line ← (Text.lines log).find? isMeaningful
  let kept := Text.unwords (Text.words (stripLocation line))
  if kept.isEmpty then none else some kept

/-- The summary of a log text. -/
def summarize (log : String) : Option String :=
  (summary? log.toList).map String.ofList

/-- The summary of the bytes of a log file. -/
def summarizeBytes (bytes : List UInt8) : Option String :=
  (summary? (Text.Utf8.decodeLossy bytes)).map String.ofList

/-- The summary of the log file at `path`. A file that cannot be read has none, and that is logged
unless the file is missing. -/
def summarizeFile {ε : Type} (path : Path) : Effect ε (Option String) := do
  match ← Effect.ask (·.files.read path) with
  | .ok bytes => return summarizeBytes bytes
  -- Nothing was compiled so far.
  | .error .notFound => return none
  | .error e =>
    Effect.warn s!"Cannot read diagnostic log {path}: {e.message}"
    return none

end Diagnostic

end FragmentRunner
