import FragmentRunner.Failure
import FragmentRunner.Text.Backspace

/-!
# Reading lines

Standard input is a sequence of lines. Nothing is echoed, and no line is edited but by the
backspaces in it; the prompt is shown only if the terminal is of a kind on which a line could not be
edited anyway.
-/

namespace FragmentRunner

/-- The lines of standard input that have not been read; a line that is not well-formed UTF-8 is
`none`. -/
abbrev LineInput := List (Option String)

/-- Why no line could be read. -/
inductive ReadError
  | endOfInput
  /-- The line is not well-formed UTF-8. -/
  | malformed
deriving DecidableEq

/-- The report of a failure to read a line. -/
def ReadError.failure : ReadError → Failure
  | .endOfInput => { message := "EOF" }
  | .malformed => IoError.failure IoError.malformedText.message .malformedText

namespace LineInput

/-- The lines that bytes encode, with their backspaces carried out. -/
def ofBytes (bytes : List UInt8) : LineInput :=
  (Text.decodedLines bytes).map fun line? =>
    line?.map fun line => String.ofList (Text.correct line.toList)

/-- The kinds of terminal on which lines cannot be edited. -/
def simpleTerminals : List String := ["dumb", "cons25", "emacs"]

/-- Whether lines cannot be edited on the terminal, upper and lower case being the same. -/
def isSimple (env : Environment) : Bool :=
  match env.get? "TERM" with
  | none => false
  | some terminal => terminal.toLower ∈ simpleTerminals

/-- Asks for a line: shows the prompt if there is nothing else to show it. -/
def ask {ε : Type} (prompt : String) : Effect ε Unit := do
  if ← Effect.ask (isSimple ·.environment) then
    Effect.debug "unsupported terminal"
    Effect.print prompt
  else Effect.debug "stdin is not a tty"

/-- Asks for a line; returns it with the lines after it. -/
def readLine (prompt : String) (input : LineInput) : Effect ReadError (String × LineInput) := do
  ask prompt
  match input with
  | [] => Effect.fail .endOfInput
  | none :: _ => Effect.fail .malformed
  | some line :: rest => return (line, rest)

end LineInput

end FragmentRunner
