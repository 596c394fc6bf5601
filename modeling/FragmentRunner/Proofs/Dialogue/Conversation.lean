import FragmentRunner.Proofs.Dialogue.Answering
import FragmentRunner.Proofs.Program.Ending
import FragmentRunner.Proofs.Run.Messages
import FragmentRunner.Proofs.Run.Reset

/-!
# A conversation as a fold

A conversation answers its lines one after the other, up to the first that asks to quit, and nothing
but the lines decides when it ends. What it leaves is what answering these lines leaves: the loop
around the answers only logs, prints, and keeps the lines for the next time.

* `respond_alike`: a line is answered in the same way whatever was said before.
* `answerAll_eq_fold`: the loop is the fold of the answers; one exchange, then induction.
* `answerAll_of_quits`: lines after one that asks to quit are not even read.
* `conversation_folds`: the same for the whole program.
-/

namespace FragmentRunner

open Run

/-! ## One answer -/

namespace Dialogue

variable {w w' : World} {colors : Bool} {line : String} {s : Interpreter} {command : LineCommand}

/-- The call that a command makes depends on the files alone. -/
theorem call?_alike (h : w.Alike w') (command : LineCommand) :
    call? w' command = call? w command := by
  cases command with
  | directory path =>
    cases path with
    | none => rfl
    | some path =>
      rw [call?, call?, OutputDirectory.validate_eq, OutputDirectory.validate_eq, h.files]
  | run | reset | quit | help | source | empty | unknown | fragment => rfl

/-- No command replaces the world. -/
theorem call?_ne_elsewhere {turn : Turn} (h : call? w command = some turn) (v : World) :
    turn ≠ .elsewhere v := by
  rintro rfl
  cases command with
  | directory path =>
    cases path with
    | none => cases h
    | some path => simp [call?] at h
  | run | reset | quit | help | source | empty | unknown | fragment => cases h

/-- What is said of a command does not depend on what was said before. -/
theorem remark_alike (h : w.Alike w') (s : Interpreter) (command : LineCommand) :
    remark s w' command = remark s w command := by
  cases command with
  | run => exact congrArg Remark.ofAnswer (Turn.answer_alike h .run s)
  | fragment text => exact congrArg Remark.ofAnswer (Turn.answer_alike h (.add text) s)
  | directory path =>
    cases path with
    | none => rfl
    | some path =>
      rw [remark, remark, OutputDirectory.validate_eq, OutputDirectory.validate_eq, h.files]
  | reset | quit | help | source | empty | unknown => rfl

/-- A line is answered in the same way in worlds that are alike, and leaves them alike. -/
theorem respond_alike (h : w.Alike w') (colors : Bool) (line : String) (s : Interpreter) :
    (respond colors line s w').1 = (respond colors line s w).1 ∧
      (respond colors line s w').2.1 = (respond colors line s w).2.1 ∧
      (respond colors line s w).2.2.Alike (respond colors line s w').2.2 := by
  rw [respond_eq, respond_eq, remark_alike h, afterCall, afterCall, call?_alike h]
  cases call? w (LineCommand.parse (trimLine line)) with
  | none => exact ⟨rfl, rfl, h⟩
  | some turn => exact ⟨rfl, Turn.perform_alike h turn s⟩

/-- Answering a line prints nothing; the reply is for others to print. -/
theorem respond_silent (colors : Bool) (line : String) (s : Interpreter) (w : World) :
    Event.standardOutput (respond colors line s w).2.2.history =
      Event.standardOutput w.history := by
  rw [respond_eq, afterCall]
  cases hcall : call? w (LineCommand.parse (trimLine line)) with
  | none => rfl
  | some turn => exact Turn.perform_silent (call?_ne_elsewhere hcall) s w

/-- Answering a line changes no variable of the environment. -/
theorem respond_environment (colors : Bool) (line : String) (s : Interpreter) (w : World) :
    (respond colors line s w).2.2.environment = w.environment := by
  rw [respond_eq, afterCall]
  cases hcall : call? w (LineCommand.parse (trimLine line)) with
  | none => rfl
  | some turn => exact Turn.perform_environment (call?_ne_elsewhere hcall) s w

end Dialogue

/-! ## The loop -/

namespace Conversation

open Dialogue

/-- The lines up to and including the first that asks to quit. -/
def upToQuit : List String → List String
  | [] => []
  | line :: rest => if quits line then [line] else line :: upToQuit rest

/-- The interpreter and the world after lines have been answered. -/
def answered (colors : Bool) (lines : List String) (state : Interpreter × World) :
    Interpreter × World :=
  lines.foldl (fun state line => (Dialogue.respond colors line state.1 state.2).2) state

/-- The replies to lines, in order. -/
def replies (colors : Bool) : List String → Interpreter × World → List Reply
  | [], _ => []
  | line :: rest, state =>
    (Dialogue.respond colors line state.1 state.2).1 ::
      replies colors rest (Dialogue.respond colors line state.1 state.2).2

/-- What is printed for a reply: a message has a line of its own. -/
def shown : Reply → String
  | .message text => text ++ "\n"
  | .exit | .silence => ""

/-- What is printed to ask for a line. -/
def shownPrompt (settings : DialogueSettings) (env : Environment) : String :=
  if LineInput.isSimple env then settings.prompt else ""

/-- What is printed while lines are answered: each reply after its prompt, and if no line asked to
quit, the prompt at which the lines ended. -/
def transcript (settings : DialogueSettings) (lines : List String) (state : Interpreter × World) :
    String :=
  let prompt := shownPrompt settings state.2.environment
  String.join ((replies settings.colors (upToQuit lines) state).map fun reply =>
    prompt ++ shown reply) ++ if lines.any quits then "" else prompt

section

variable {settings : DialogueSettings} {s s₁ : Interpreter} {w w' w₁ : World} {reply : Reply}
  {line : String} {lines : List String}

/-- Asking for a line shows the prompt, if there is nothing else to show it, and logs. -/
theorem exists_ask {ε : Type} (settings : DialogueSettings) (w : World) :
    ∃ asked, (LineInput.ask settings.prompt : Effect ε Unit) w = (.ok (), asked) ∧
      w.Prints (shownPrompt settings w.environment) asked := by
  have hasked : (Effect.ask (LineInput.isSimple ·.environment) : Effect ε Bool) w =
      (.ok (LineInput.isSimple w.environment), w) := rfl
  rw [LineInput.ask, Effect.bind_of_ok hasked, shownPrompt]
  cases LineInput.isSimple w.environment with
  | true =>
    have hlogged := World.Prints.record (.logged .debug "unsupported terminal") rfl w
    exact ⟨_, rfl, hlogged.trans (.record (.printed settings.prompt) rfl _)⟩
  | false => exact ⟨_, rfl, .record (.logged .debug "stdin is not a tty") rfl w⟩

/-- One exchange: a line is asked for, remembered and answered, and the reply is shown. The loop
ends there if the line asks to quit, and else goes on with the other lines, whatever they are. -/
theorem exchange (h : w.Alike w') (history : LineHistory)
    (hanswer : Dialogue.respond settings.colors line s w = (reply, s₁, w₁)) :
    ∃ next, w₁.Alike next ∧
      Event.standardOutput next.history = Event.standardOutput w'.history ++
        (shownPrompt settings w.environment ++ shown reply) ∧
      ∀ rest : LineInput, answerAll settings (some line :: rest) s history w' =
        if quits line then (.ok (remember history line, s₁), next)
        else answerAll settings rest s₁ (remember history line) next := by
  obtain ⟨asked, hask, hprompt⟩ := exists_ask (ε := ReadError) settings w'
  -- The line is answered in a world in which a prompt was shown, and answered as without it.
  have hsame := respond_alike (World.Alike.trans h hprompt.toBecomes) settings.colors line s
  have hsilent := respond_silent settings.colors line s asked
  rw [hprompt.output, h.environment] at hsilent
  have hexit := respond_eq_exit_iff settings.colors line s w
  rw [hanswer] at hsame hexit
  rcases hanswer' : Dialogue.respond settings.colors line s asked with ⟨reply', s', mid⟩
  rw [hanswer'] at hsame hsilent
  obtain ⟨rfl, rfl, halike⟩ := hsame
  have hrespond : respond settings line s asked = (.ok (reply', s'), mid) := by
    rw [respond, hanswer']
  -- What the loop does now is decided by the reply, and the reply by the line.
  cases reply' with
  | exit =>
    refine ⟨mid, halike, by rw [hsilent, shown, String.append_empty], fun rest => ?_⟩
    rw [answerAll, Effect.bind_of_ok hask, Effect.bind_of_ok hrespond, if_pos (hexit.mp rfl)]
    rfl
  | silence =>
    have hquits : quits line ≠ true := fun hquits => nomatch hexit.mpr hquits
    refine ⟨mid, halike, by rw [hsilent, shown, String.append_empty], fun rest => ?_⟩
    rw [answerAll, Effect.bind_of_ok hask, Effect.bind_of_ok hrespond, if_neg hquits]
  | message text =>
    have hquits : quits line ≠ true := fun hquits => nomatch hexit.mpr hquits
    have hprinted := World.Prints.record (.printed (text ++ "\n")) rfl mid
    refine ⟨_, World.Alike.trans halike hprinted.toBecomes, ?_, fun rest => ?_⟩
    · rw [hprinted.output, hsilent, String.append_assoc, shown]
      rfl
    · rw [answerAll, Effect.bind_of_ok hask, Effect.bind_of_ok hrespond, if_neg hquits]
      rfl

/-- The lines that are answered are the first one and, unless it asks to quit, those of the rest. -/
theorem answered_upToQuit_cons (rest : List String)
    (hanswer : Dialogue.respond settings.colors line s w = (reply, s₁, w₁)) :
    answered settings.colors (upToQuit (line :: rest)) (s, w) =
      if quits line then (s₁, w₁) else answered settings.colors (upToQuit rest) (s₁, w₁) := by
  rw [upToQuit]
  split_ifs <;> simp [answered, hanswer]

/-- The transcript begins with the first exchange, and goes on unless that was the last. -/
theorem transcript_cons (rest : List String)
    (hanswer : Dialogue.respond settings.colors line s w = (reply, s₁, w₁)) :
    transcript settings (line :: rest) (s, w) =
      shownPrompt settings w.environment ++ shown reply ++
        if quits line then "" else transcript settings rest (s₁, w₁) := by
  have henvironment : w₁.environment = w.environment := by
    simpa [hanswer] using respond_environment settings.colors line s w
  cases hquits : quits line with
  | true => simp [transcript, upToQuit, replies, hquits, hanswer]
  | false =>
    simp [transcript, upToQuit, replies, hquits, hanswer, henvironment, String.append_assoc]

/-- The loop leaves what the fold leaves, whatever was said before it began, and prints the
transcript. -/
theorem answerAll_eq_fold (settings : DialogueSettings) (h : w.Alike w') (lines : List String)
    (s : Interpreter) (history : LineHistory) :
    ∃ remembered after,
      answerAll settings (lines.map some) s history w' =
        (.ok (remembered, (answered settings.colors (upToQuit lines) (s, w)).1), after) ∧
      (answered settings.colors (upToQuit lines) (s, w)).2.Alike after ∧
      Event.standardOutput after.history =
        Event.standardOutput w'.history ++ transcript settings lines (s, w) := by
  -- The induction carries that the worlds of the loop and of the fold are alike.
  induction lines generalizing s w w' history with
  | nil =>
    obtain ⟨asked, hask, hprompt⟩ := exists_ask (ε := ReadError) settings w'
    refine ⟨history, asked, ?_, World.Alike.trans h hprompt.toBecomes, ?_⟩
    · rw [List.map_nil, answerAll, Effect.bind_of_ok hask]
      rfl
    · rw [hprompt.output, h.environment]
      simp [transcript, upToQuit, replies]
  | cons line rest ih =>
    rcases hanswer : Dialogue.respond settings.colors line s w with ⟨reply, s₁, w₁⟩
    obtain ⟨next, halike, houtput, hnext⟩ := exchange h history hanswer
    rw [List.map_cons, hnext, answered_upToQuit_cons rest hanswer, transcript_cons rest hanswer]
    cases hquits : quits line with
    | true =>
      refine ⟨remember history line, next, rfl, halike, ?_⟩
      rw [houtput, if_pos rfl, String.append_empty]
    | false =>
      obtain ⟨remembered, after, hrest, hafter, hshown⟩ := ih halike s₁ (remember history line)
      refine ⟨remembered, after, hrest, hafter, ?_⟩
      rw [hshown, houtput, if_neg Bool.false_ne_true, String.append_assoc]

/-- Lines after one that asks to quit make no difference; it does not matter whether they can be
read. -/
theorem answerAll_of_quits (h : lines.any quits = true) (rest : LineInput) (s : Interpreter)
    (history : LineHistory) :
    answerAll settings (lines.map some ++ rest) s history =
      answerAll settings (lines.map some) s history := by
  induction lines generalizing s history with
  | nil => simp at h
  | cons line lines ih =>
    funext w
    -- An exchange does not look at the lines after it, so both loops make the same one.
    rcases hanswer : Dialogue.respond settings.colors line s w with ⟨reply, s₁, w₁⟩
    obtain ⟨next, -, -, hnext⟩ := exchange (.refl w) history hanswer
    rw [List.map_cons, List.cons_append, hnext, hnext]
    cases hquits : quits line with
    | true => rfl
    | false =>
      have hlines : lines.any quits = true := by simpa [hquits] using h
      rw [ih hlines]

/-! ## From the first word to the last -/

/-- Warnings print nothing and change nothing. -/
theorem exists_forM_warn {ε : Type} (messages : List String) (w : World) :
    ∃ after, (messages.forM fun line => Effect.warn ("bad escaped line: " ++ line) :
      Effect ε PUnit) w = (.ok ⟨⟩, after) ∧ w.Prints "" after := by
  induction messages generalizing w with
  | nil => exact ⟨w, rfl, .refl w⟩
  | cons message messages ih =>
    let warning := Event.logged .warn ("bad escaped line: " ++ message)
    have hwarned := World.Prints.record warning rfl w
    obtain ⟨after, hrest, hafter⟩ := ih { w with history := w.history ++ [warning] }
    exact ⟨after, hrest, hwarned.trans hafter⟩

/-- The lines of earlier conversations are looked up before anything is said. -/
theorem exists_remembered (settings : DialogueSettings) (file : Option Path) (w : World) :
    ∃ history after, (remembered settings file : Effect ReadError LineHistory) w =
      (.ok history, after) ∧ w.Prints "" after := by
  cases file with
  | none => exact ⟨_, w, rfl, .refl w⟩
  | some path =>
    have hread : (Effect.ask (·.files.read path) : Effect ReadError _) w =
        (.ok (w.files.read path), w) := rfl
    rw [remembered, LineHistory.load, Effect.bind_of_ok hread]
    cases w.files.read path with
    | error e => exact ⟨_, w, rfl, .refl w⟩
    | ok content =>
      obtain ⟨after, hwarned, hafter⟩ := exists_forM_warn (ε := ReadError)
        (LineHistory.decode { limit := settings.historySize } content).2 w
      exact ⟨_, after, Effect.bind_of_ok hwarned, hafter⟩

/-- At the end the lines are kept in their file, if there is one and it can be written. -/
theorem exists_keep (history : LineHistory) (file : Option Path) (w : World) :
    ∃ fs, (keep history file : Effect ReadError Unit) w = (.ok (), { w with files := fs }) ∧
      (fs = w.files ∨
        ∃ path content, file = some path ∧ w.files.write path content = .ok fs) := by
  cases file with
  | none => exact ⟨w.files, rfl, .inl rfl⟩
  | some path =>
    simp only [keep, LineHistory.save]
    split_ifs
    · exact ⟨w.files, rfl, .inl rfl⟩
    · cases hwrite : w.files.write path (.bytes history.encode) with
      | ok fs => exact ⟨fs, rfl, .inr ⟨path, _, rfl, hwrite⟩⟩
      | error e => exact ⟨w.files, rfl, .inl rfl⟩

/-- A conversation leaves what the fold leaves, except for the file that keeps its lines. -/
theorem hold_eq_fold (settings : DialogueSettings) (lines : List String) (s : Interpreter)
    (w : World) :
    let final := answered settings.colors (upToQuit lines) (s, w)
    ∃ after, hold settings (lines.map some) s w = (.ok final.1, after) ∧
      final.2.Becomes after.files [] after ∧
      (after.files = final.2.files ∨ ∃ file content,
        settings.historyPath? w.environment = some file ∧
        final.2.files.write file content = .ok after.files) ∧
      Event.standardOutput after.history = Event.standardOutput w.history ++
        (helpText ++ "\n\n" ++ transcript settings lines (s, w) ++ "Bye!\n") := by
  intro final
  have hfile : (Effect.ask (settings.historyPath? ·.environment) : Effect ReadError _) w =
      (.ok (settings.historyPath? w.environment), w) := rfl
  obtain ⟨history, loaded, hload, hloaded⟩ :=
    exists_remembered settings (settings.historyPath? w.environment) w
  have hgreeted := World.Prints.record (.printed (helpText ++ "\n\n")) rfl loaded
  have hbegun := hloaded.trans hgreeted
  obtain ⟨remembered, ended, hanswered, halike, hshown⟩ :=
    answerAll_eq_fold settings hbegun.toBecomes lines s history
  obtain ⟨fs, hkeep, hfs⟩ := exists_keep remembered (settings.historyPath? w.environment) ended
  let kept := { ended with files := fs }
  have hkept : ended.Becomes fs [] kept := .of_files ended fs
  have hleft := World.Prints.record (.printed "Bye!\n") rfl kept
  refine ⟨{ kept with history := kept.history ++ [.printed "Bye!\n"] }, ?_, ?_, ?_, ?_⟩
  · -- The steps of a conversation: its file, the earlier lines, the greeting, the loop, the end.
    rw [hold, Effect.bind_of_ok hfile, Effect.bind_of_ok hload,
      Effect.bind_of_ok (show Effect.print _ loaded = (.ok (), _) from rfl),
      Effect.bind_of_ok hanswered]
    exact Effect.bind_of_ok hkeep
  · exact (World.Becomes.trans halike hkept).trans hleft.toBecomes
  · -- The file of the lines is written where the loop has left the files.
    rw [← halike.files]
    exact hfs
  · have hsame : kept.history = ended.history := rfl
    rw [hleft.output, hsame, hshown, hbegun.output]
    simp [Event.outputText, String.append_assoc]

end

/-! ## The program -/

section Program

open Program

variable {options : Options} {settings : Settings} {directory : Path} {w begun after : World}
  {input rest : LineInput}

/-- A conversation that was held to its end is a success. -/
theorem converse_eq_ok {settings : DialogueSettings} {s final : Interpreter}
    (h : hold settings rest s begun = (.ok final, after)) :
    converse settings rest s begun = (.ok 0, after) := by
  have hheld : Effect.mapError ReadError.failure (hold settings rest s) begun =
      (.ok final, after) := by
    rw [Effect.mapError, h]
  exact Effect.bind_of_ok hheld

/-- However its runs end, a conversation over lines that can be read ends, and the program succeeds.
The interpreter at the end, the files, the compilers that were started and the entry points that
were called are those of answering the lines one after the other, up to and including the first that
asks to quit; only the file that the settings name for the lines is written besides. What is printed
is the help, each message on a line of its own, and the farewell, with the prompts if they are
shown. Whatever follows a line that asks to quit makes no difference. -/
theorem conversation_folds (lines : List String)
    (hsettings : (settle options w).1 = .ok settings)
    (hdirectory :
      findDirectory options settings input w = (.ok (directory, lines.map some), begun)) :
    let s := Interpreter.new directory settings.toolchain
    let dialogue := settings.dialogue
    let read := upToQuit lines
    let final := answered dialogue.colors read (s, begun)
    let prompt := shownPrompt dialogue begun.environment
    ∃ after, completed (conclude (perform options .converse input)) w = (0, after) ∧
      hold dialogue (lines.map some) s begun = (.ok final.1, after) ∧
      final.2.Becomes after.files [] after ∧
      (after.files = final.2.files ∨ ∃ file content,
        dialogue.historyPath? begun.environment = some file ∧
        final.2.files.write file content = .ok after.files) ∧
      Event.standardOutput after.history = Event.standardOutput begun.history ++
        (Dialogue.helpText ++ "\n\n" ++
          (String.join ((replies dialogue.colors read (s, begun)).map fun reply =>
              prompt ++ shown reply) ++ if lines.any quits then "" else prompt) ++
          "Bye!\n") ∧
      (lines.any quits = true → ∀ more : LineInput,
        hold dialogue (lines.map some ++ more) s = hold dialogue (lines.map some) s) ∧
      ∀ arguments bytes,
        CommandLine.parse? arguments = some (.perform options .converse) →
        LineInput.ofBytes bytes = input →
          (run arguments bytes w).status = 0 ∧ (run arguments bytes w).world = after := by
  intro s dialogue read final prompt
  obtain ⟨after, hheld, hworld, hfiles, hshown⟩ := hold_eq_fold dialogue lines s begun
  have hperform := perform_converse hsettings hdirectory
  have hended : completed (conclude (perform options .converse input)) w = (0, after) :=
    completed_conclude_of_ok (hperform.trans (converse_eq_ok hheld))
  refine ⟨after, hended, hheld, hworld, hfiles, hshown, ?_, ?_⟩
  · intro hquits more
    simp only [hold, answerAll_of_quits hquits more]
  · intro arguments bytes hparse hinput
    subst hinput
    rw [run, hparse]
    simp only [hended]
    exact ⟨rfl, rfl⟩

end Program

/-- A compiler that refuses the first unit and accepts those after it. -/
def refusingOnce : World where
  files := refusing.files
  environment := ⟨[("PATH", "/bin")]⟩
  plans starts :=
    if starts = 0 then refusing.compiler
    else ⟨[], .file (.image ⟨[(entrySymbol, 0)]⟩), .exited 0⟩
  history := []

/-- A unit is refused, another one is run after a reset, and the run after the line that asks to
quit does not take place. -/
theorem conversation_refused_then_run :
    let options : Options := { outputDirectory := some (.ofString "out") }
    let lines := ["let x = ;", "run", "reset", "let x = 1;", "run", " :q ", "run"]
    let build : BuildDirectory := ⟨.ofString "/out", {}⟩
    let command := build.commandLine build.unitSource (.ofString "/bin/rustc")
    (Program.settle options refusingOnce).1 = .ok {} ∧
    Program.findDirectory options {} (lines.map some) refusingOnce =
      (.ok (.ofString "/out", lines.map some), refusingOnce) ∧
    ∃ after, Program.completed (Program.conclude
        (Program.perform options .converse (lines.map some))) refusingOnce = (0, after) ∧
      Event.actions after.history = [.started command, .started command, .called entrySymbol] ∧
      Event.standardOutput after.history =
        helpText ++ "\n\n" ++ "\x1b[31merror: expected expression\x1b[39m\n" ++ "Bye!\n" := by
  intro options lines build command
  have hsettings : (Program.settle options refusingOnce).1 = .ok {} := by decide +kernel
  have hdirectory : Program.findDirectory options {} (lines.map some) refusingOnce =
      (.ok (.ofString "/out", lines.map some), refusingOnce) := by rfl
  obtain ⟨after, hended, -, hworld, -, hshown, -, -⟩ :=
    conversation_folds lines hsettings hdirectory
  refine ⟨hsettings, hdirectory, after, hended, ?_, ?_⟩
  · rw [hworld.actions]
    decide +kernel
  · have hshows : transcript {} lines (.new (.ofString "/out") {}, refusingOnce) =
        "\x1b[31merror: expected expression\x1b[39m\n" := by decide +kernel
    rw [transcript] at hshows
    rw [hshown, hshows]
    exact String.empty_append

end Conversation

end FragmentRunner
