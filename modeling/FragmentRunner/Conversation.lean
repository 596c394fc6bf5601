import FragmentRunner.Dialogue
import FragmentRunner.LineHistory
import FragmentRunner.LineInput

/-!
# The conversation

The program reads lines and answers each of them, until it is told to quit or the lines end. Every
line that is not blank is remembered, the one that quits included. What is remembered is kept in a
file, if the settings name one; a line that cannot be read ends the conversation without that.

* `Conversation.answerAll` reads and answers lines.
* `Conversation.hold` is a conversation from its first word to its last.
-/

namespace FragmentRunner.Conversation

/-- Remembers a line, unless it is blank. -/
def remember (history : LineHistory) (line : String) : LineHistory :=
  if (Text.trim line.toList).isEmpty then history else history.add line

/-- Answers one line; returns the answer with the interpreter. -/
def respond (settings : DialogueSettings) (line : String) (s : Interpreter) :
    Effect ReadError (Reply × Interpreter) := fun w =>
  let (reply, s, w) := Dialogue.respond settings.colors line s w
  (.ok (reply, s), w)

/-- Reads lines and answers them; returns what is remembered at the end, with the interpreter. -/
def answerAll (settings : DialogueSettings) :
    LineInput → Interpreter → LineHistory → Effect ReadError (LineHistory × Interpreter)
  | [], s, history => do
    LineInput.ask settings.prompt
    return (history, s)
  | none :: _, _, _ => do
    LineInput.ask settings.prompt
    Effect.fail .malformed
  | some line :: rest, s, history => do
    LineInput.ask settings.prompt
    -- A line is remembered before it is answered, so the one that quits is remembered as well.
    let history := remember history line
    let (reply, s) ← respond settings line s
    match reply with
    | .exit => return (history, s)
    | .silence => answerAll settings rest s history
    | .message text =>
      Effect.print (text ++ "\n")
      answerAll settings rest s history

/-- The lines remembered when a conversation begins. -/
def remembered {ε : Type} (settings : DialogueSettings) (file : Option Path) : Effect ε LineHistory :=
  match file with
  | none => return { limit := settings.historySize }
  | some path => LineHistory.load settings.historySize path

/-- Keeps the remembered lines when a conversation ends. -/
def keep {ε : Type} (history : LineHistory) (file : Option Path) : Effect ε Unit :=
  match file with
  | none => return ()
  | some path => history.save path

/-- Holds a conversation; returns the interpreter as it is at the end. -/
def hold (settings : DialogueSettings) (input : LineInput) (s : Interpreter) :
    Effect ReadError Interpreter := do
  let file ← Effect.ask (settings.historyPath? ·.environment)
  let history ← remembered settings file
  Effect.print (Dialogue.helpText ++ "\n\n")
  let (history, s) ← answerAll settings input s history
  keep history file
  Effect.print "Bye!\n"
  return s

end FragmentRunner.Conversation
