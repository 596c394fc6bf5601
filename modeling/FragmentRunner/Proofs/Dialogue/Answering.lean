import FragmentRunner.Dialogue
import FragmentRunner.Proofs.Build.OutputDirectory
import FragmentRunner.Proofs.Run.Answers

/-!
# What a line does

A line is a command, and a command makes one call of the interpreter or none. `call?` names that
call and `remark` says what the dialogue has to say afterwards, before it is coloured: of a command
with a call of its own that is decided by what the call answered. Nothing else happens when a line
is answered, so whatever is known about the calls is known about the dialogue.

* `perform_eq`: a command makes its call and is answered with its remark.
* `respond_eq_exit_iff`: which lines end the dialogue.
* `line_makes_its_call`: what a line does to the interpreter and to the world, whatever the colours
  are, and how the colours show in the reply.
-/

namespace FragmentRunner.Dialogue

open Run

/-! ## Calls -/

/-- The call that a command makes, if it makes one. A directory that is not fit for output is not
set. -/
def call? (w : World) : LineCommand → Option Turn
  | .reset => some .reset
  | .run => some .run
  | .directory (some path) =>
    (OutputDirectory.validate (.ofString path) w).1.toOption.map Turn.setDirectory
  | .fragment text => some (.add text)
  | .directory none | .empty | .quit | .help | .source | .unknown _ => none

/-- The commands that change nothing. -/
inductive Idle (w : World) : LineCommand → Prop
  | empty : Idle w .empty
  | quit : Idle w .quit
  | help : Idle w .help
  | source : Idle w .source
  | currentDirectory : Idle w (.directory none)
  | unfitDirectory {path : String} {e : OutputDirectoryError}
      (h : (OutputDirectory.validate (.ofString path) w).1 = .error e) :
      Idle w (.directory (some path))
  | unknown (line : String) : Idle w (.unknown line)
  | refused {text : String} (h : FragmentKind.of? text = none) : Idle w (.fragment text)

/-- The state after a command: that after its call. -/
def afterCall (s : Interpreter) (w : World) (command : LineCommand) : Interpreter × World :=
  (call? w command).elim (s, w) (·.perform (s, w))

/-- A command that changes nothing makes no call, or one that is refused. -/
theorem Idle.afterCall_eq {s : Interpreter} {w : World} {command : LineCommand}
    (h : Idle w command) : afterCall s w command = (s, w) := by
  cases h with
  | empty | quit | help | source | currentDirectory | unknown => rfl
  | unfitDirectory h => simp [afterCall, call?, h, Except.toOption]
  | refused h =>
    -- The call is made, and is refused before it records anything.
    have hrefused := add_of_refused s w h
    simp [afterCall, call?, perform_add, hrefused]

/-! ## Replies -/

/-- What the dialogue has to say, before it is coloured. -/
inductive Remark
  /-- The dialogue is over. -/
  | farewell
  | nothing
  | information (text : String)
  /-- Something went wrong. -/
  | problem (text : String)
deriving DecidableEq

/-- The reply that makes a remark. -/
def Remark.reply (colors : Bool) : Remark → Reply
  | .farewell => .exit
  | .nothing => .silence
  | .information text => .message text
  | .problem text => complaint colors text

/-- What is said of the answer to a call. -/
def Remark.ofAnswer : Answer → Remark
  | .done | .added (.ok ()) | .ran (.ok (.executed .completed)) => .nothing
  | .shown unit => .information unit
  | .added (.error e) => .problem e.message
  | .ran (.ok (.executed .panicked)) => .problem "A statement panicked; the trace is above."
  | .ran (.ok (.rejected summary log)) => .problem (refusal summary log)
  | .ran (.error e) => .problem ("Error: " ++ e.message)

/-- The remark that names a directory. -/
def Remark.directory (path : Path) : Remark :=
  .information s!"Output directory: {path}"

/-- What is said of a command. -/
def remark (s : Interpreter) (w : World) : LineCommand → Remark
  | .empty => .nothing
  | .quit => .farewell
  | .reset => .ofAnswer (Turn.reset.answer (s, w))
  | .run => .ofAnswer (Turn.run.answer (s, w))
  | .fragment text => .ofAnswer ((Turn.add text).answer (s, w))
  | .source => .ofAnswer (Turn.preview.answer (s, w))
  | .help => .information helpText
  | .unknown line => .problem ("Unknown command: " ++ line)
  | .directory none => .directory s.build.directory
  | .directory (some path) =>
    match (OutputDirectory.validate (.ofString path) w).1 with
    | .ok directory => .directory directory
    | .error e => .problem e.message

section

variable {colors : Bool} {s : Interpreter} {w : World} {command : LineCommand} {line : String}

/-- A command makes its call and is answered with its remark. -/
theorem perform_eq (colors : Bool) (s : Interpreter) (w : World) (command : LineCommand) :
    perform colors s w command = ((remark s w command).reply colors, afterCall s w command) := by
  cases command with
  | empty | quit | reset | help | source | unknown => rfl
  | run =>
    -- The dialogue has one reply for each outcome of a run, and so have the answers.
    have hrun : perform colors s w .run = (ofRun colors (s.run w).1, (s.run w).2) := rfl
    rw [hrun, remark, Turn.answer]
    rcases (s.run w).1 with e | ⟨⟨⟩ | ⟨⟩⟩ | ⟨summary, log⟩ <;> rfl
  | directory path =>
    cases path with
    | none => rfl
    | some path =>
      -- The check leaves the world as it is, so the call finds the world of the command.
      have hvalid := OutputDirectory.validate_eq (.ofString path) w
      simp only [perform, remark, afterCall, call?, hvalid]
      cases OutputDirectory.verdict w.files (.ofString path) <;> rfl
  | fragment text =>
    -- Where the fragment is refused, the turn keeps the interpreter, and so does the dialogue.
    have hperform := perform_add s w text
    have hanswer : (Turn.add text).answer (s, w) = .added (SharedInterpreter.add text s w).1 := rfl
    rw [remark, hanswer, afterCall, call?, Option.elim_some, hperform, SharedInterpreter.add,
      perform]
    rcases s.add text w with ⟨e | s', w'⟩ <;> rfl

/-- A line is answered as its command is. -/
theorem respond_eq (colors : Bool) (line : String) (s : Interpreter) (w : World) :
    respond colors line s w =
      ((remark s w (LineCommand.parse (trimLine line))).reply colors,
        afterCall s w (LineCommand.parse (trimLine line))) :=
  perform_eq colors s w _

/-- The words that ask to quit. -/
theorem parse_eq_quit_iff : LineCommand.parse line = .quit ↔ line ∈ ["quit", ":quit", ":q"] := by
  constructor
  · intro h
    rw [LineCommand.parse] at h
    split_ifs at h with hempty hrun hreset hquit
    · exact hquit
    · -- What is left begins with a colon, or is a fragment.
      split at h
      · rw [LineCommand.ofColon] at h
        split_ifs at h
      · cases h
  · intro h
    simp only [List.mem_cons, List.not_mem_nil, or_false] at h
    rcases h with rfl | rfl | rfl <;> decide

/-- A fragment is all of its line. -/
theorem eq_of_parse_eq_fragment {text : String} (h : LineCommand.parse line = .fragment text) :
    text = line := by
  rw [LineCommand.parse] at h
  split_ifs at h
  split at h
  · rw [LineCommand.ofColon] at h
    split_ifs at h
  · exact (LineCommand.fragment.inj h).symm

/-- No call is answered with a farewell, whatever went wrong in it. -/
theorem ofAnswer_ne_farewell (answer : Answer) : Remark.ofAnswer answer ≠ .farewell := by
  unfold Remark.ofAnswer
  split <;> nofun

/-- Only a command to quit is answered with a farewell. -/
theorem remark_eq_farewell_iff : remark s w command = .farewell ↔ command = .quit := by
  constructor
  · intro h
    cases command with
    | quit => rfl
    | empty | reset | help | source | unknown => cases h
    -- An answer can tell of any failure, but is never a farewell.
    | run | fragment => exact absurd h (ofAnswer_ne_farewell _)
    | directory path =>
      cases path with
      | none => cases h
      | some path =>
        rw [remark] at h
        split at h <;> cases h
  · rintro rfl
    rfl

/-- A reply ends the dialogue if it is a farewell. -/
theorem reply_eq_exit_iff {remark : Remark} : remark.reply colors = .exit ↔ remark = .farewell := by
  cases remark <;> simp [Remark.reply, complaint]

/-- Whether a line asks to quit. -/
def quits (line : String) : Bool :=
  trimLine line ∈ ["quit", ":quit", ":q"]

/-- Only a line that asks to quit ends the dialogue. -/
theorem respond_eq_exit_iff (colors : Bool) (line : String) (s : Interpreter) (w : World) :
    (respond colors line s w).1 = .exit ↔ quits line = true := by
  rw [respond_eq, reply_eq_exit_iff, remark_eq_farewell_iff, parse_eq_quit_iff, quits,
    decide_eq_true_iff]

/-- Colours show in problems only, and there around the text. -/
theorem reply_colors (remark : Remark) :
    remark.reply true = remark.reply false ∨
      ∃ text, remark.reply false = .message text ∧
        remark.reply true = .message ("\x1b[31m" ++ text ++ "\x1b[39m") := by
  cases remark with
  | farewell | nothing | information => exact .inl rfl
  | problem text => exact .inr ⟨text, rfl, rfl⟩

end

/-- A line does to the interpreter and to the world what the one call of its command does, and
nothing if the command has none, is refused, or names a directory that is not fit. Only the three
words for it end the dialogue, whatever goes wrong in a run. The colours change nothing but the look
of a reply that tells of a problem: the unit, the help and the name of a directory are told in one
way. -/
theorem line_makes_its_call (line : String) (s : Interpreter) (w : World) :
    let command := LineCommand.parse (trimLine line)
    let reply := fun colors => (respond colors line s w).1
    let after := fun colors => (respond colors line s w).2
    (∀ colors, after colors = (call? w command).elim (s, w) fun turn => turn.perform (s, w)) ∧
    (∀ text, command = .fragment text → text = trimLine line) ∧
    (Idle w command → ∀ colors, after colors = (s, w)) ∧
    (∀ colors, reply colors = .exit ↔ trimLine line ∈ ["quit", ":quit", ":q"]) ∧
    after true = after false ∧
    (reply true = reply false ∨ ∃ text, reply false = .message text ∧
      reply true = .message ("\x1b[31m" ++ text ++ "\x1b[39m")) ∧
    (command = .help → ∀ colors, reply colors = .message helpText) ∧
    (command = .source → ∀ colors, reply colors = .message s.draft.render) ∧
    (command = .directory none → ∀ colors,
      reply colors = .message ("Output directory: " ++ s.build.directory.spelling)) ∧
    (∀ path directory, command = .directory (some path) →
      (OutputDirectory.validate (.ofString path) w).1 = .ok directory →
      ∀ colors, reply colors = .message ("Output directory: " ++ directory.spelling)) := by
  intro command reply after
  -- All of it is read off the call of the command and the remark on it.
  have hafter : ∀ colors, after colors = afterCall s w command := by
    intro colors
    simp only [after, respond_eq, command]
  have hreply : ∀ colors, reply colors = (remark s w command).reply colors := by
    intro colors
    simp only [reply, respond_eq, command]
  refine ⟨?_, ?_, ?_, ?_, ?_, ?_, ?_, ?_, ?_, ?_⟩
  · exact hafter
  · intro text htext
    exact eq_of_parse_eq_fragment htext
  · intro hidle colors
    rw [hafter, hidle.afterCall_eq]
  · intro colors
    exact (respond_eq_exit_iff colors line s w).trans decide_eq_true_iff
  · rw [hafter, hafter]
  · rw [hreply, hreply]
    exact reply_colors _
  · intro hcommand colors
    rw [hreply, hcommand]
    rfl
  · intro hcommand colors
    rw [hreply, hcommand]
    rfl
  · intro hcommand colors
    rw [hreply, hcommand]
    rfl
  · intro path directory hcommand hvalid colors
    rw [hreply, hcommand, remark, hvalid]
    rfl

end FragmentRunner.Dialogue
