import FragmentRunner.Proofs.Dialogue.Conversation
import FragmentRunner.Proofs.Run.Compiler
import FragmentRunner.Proofs.Run.Session
import FragmentRunner.Proofs.Settings.Compiler

/-!
# The compiler of the program

Whatever the program is told to do, it works with one interpreter, made with the settings as they
are after the environment and the command line have had their say. All that it does to that
interpreter is one session, so what is known about the compiler of a run is known about every
compiler that the program starts.

* `execute_inSession`, `demonstrate_inSession` and `answerAll_inSession`: the commands go on with a
  session.
* `exists_leaves`: the program leaves what a session leaves.
* `compiler_by_precedence`: which compiler the program starts.
-/

namespace FragmentRunner

open Run Effect

variable {ε : Type} {start : Interpreter × World} {runs : List (Interpreter × World)}
  {s : Interpreter} {w w' : World} {settings : DialogueSettings}

/-! ## Adding and running -/

namespace Run

/-- Adding a fragment goes on with a session. -/
theorem add_inSession (text : String) : InSession start s (s.add text) (· = ·) := by
  intro runs w h
  obtain ⟨runs', hsession⟩ := h.exists_perform (.add text) (by simp)
  rw [Turn.perform] at hsession
  rcases hadded : s.add text w with ⟨e | s', w'⟩ <;> rw [hadded] at hsession
  · exact ⟨runs', s, hsession, fun _ hfailed => by cases hfailed⟩
  · exact ⟨runs', s', hsession, fun _ hresult => (Except.ok.inj hresult).symm⟩

/-- Adding fragments goes on with a session, also if one is refused. -/
theorem addAll_inSession (texts : List String) : InSession start s (s.addAll texts) (· = ·) := by
  induction texts generalizing s with
  | nil => exact .pure rfl
  | cons text texts ih => exact .bind (add_inSession text) fun s₁ s' hsame => hsame ▸ ih

/-- Adding fragments and logging each goes on with a session. -/
theorem addLogged_inSession (texts : List String) :
    InSession start s (Demo.addLogged s texts) (· = ·) := by
  induction texts generalizing s with
  | nil => exact .pure rfl
  | cons text texts ih =>
    exact .quiet_bind (.debug _) fun _ =>
      .bind (add_inSession text) fun s₁ s' hsame => hsame ▸ ih

/-- Imports that are added go on with a session. -/
theorem Session.exists_addImports (imports : List String) (h : Session start runs (s, w)) :
    ∃ runs', Session start runs' (imports.foldl Interpreter.addImport s, w) := by
  induction imports generalizing s runs with
  | nil => exact ⟨runs, h⟩
  | cons text imports ih =>
    obtain ⟨runs', hadded⟩ := h.exists_perform (.addImport text) (by simp)
    exact ih hadded

/-- A run goes on with a session. -/
theorem run_inSession (s : Interpreter) :
    InSession start s (fun w => ((s.run w).1, (s.run w).2.2)) fun _ _ => True := by
  intro runs w h
  have hrun : Session start (runs ++ [(s, w)]) (s.run w).2 := .run h
  exact ⟨_, (s.run w).2.1, hrun, fun _ _ => trivial⟩

end Run

/-! ## Commands that run once -/

namespace Program

/-- One run as a part of a task goes on with a session. -/
theorem runOnce_inSession (task : String) (s : Interpreter) :
    InSession start s (runOnce task s) fun _ _ => True := by
  refine .bind (.mapError _ (run_inSession s)) fun outcome s' _ => ?_
  cases outcome with
  | executed => exact .pure trivial
  | rejected => exact .quiet_bind (.report _) fun _ => .pure trivial

/-- Executing fragments goes on with a session. -/
theorem execute_inSession (s : Interpreter) (imports fragments : List String) :
    InSession start s (execute s imports fragments) fun _ _ => True := by
  intro runs w h
  obtain ⟨runs', hadded⟩ := h.exists_addImports imports
  have hexecute : InSession start (imports.foldl Interpreter.addImport s)
      (execute s imports fragments) fun _ _ => True := by
    refine .bind (.attempt (addAll_inSession fragments)) fun r s' hr => ?_
    cases r with
    | ok s₁ => exact hr s₁ rfl ▸ runOnce_inSession _ s₁
    | error e => exact .quiet_bind (.report _) fun _ => .pure trivial
  exact hexecute runs' w hadded

/-- The demonstration goes on with a session. -/
theorem demonstrate_inSession (s : Interpreter) :
    InSession start s (demonstrate s) fun _ _ => True :=
  .quiet_bind (.print _) fun _ =>
    .bind (.mapError _ (addLogged_inSession _)) fun s₁ _ hsame => hsame ▸ runOnce_inSession _ s₁

end Program

/-! ## Conversations -/

namespace Conversation

/-- Asking for a line only logs and prints. -/
theorem ask_quiet (prompt : String) : (LineInput.ask prompt : Effect ε Unit).Quiet := by
  refine .bind (.ask _) fun simple => ?_
  cases simple with
  | true => exact .bind (.debug _) fun _ => .print _
  | false => exact .debug _

/-- Answering a line goes on with a session. -/
theorem respond_inSession (settings : DialogueSettings) (line : String) (s : Interpreter) :
    InSession start s (respond settings line s) fun r s' => r.2 = s' := by
  intro runs w h
  rw [respond, Dialogue.respond_eq, Dialogue.afterCall]
  cases hcall : Dialogue.call? w (LineCommand.parse (Dialogue.trimLine line)) with
  | none => exact ⟨runs, s, h, fun _ hresult => Except.ok.inj hresult ▸ rfl⟩
  | some turn =>
    obtain ⟨runs', hsession⟩ := h.exists_perform turn (Dialogue.call?_ne_elsewhere hcall)
    exact ⟨runs', _, hsession, fun _ hresult => Except.ok.inj hresult ▸ rfl⟩

/-- Answering lines goes on with a session, also if one of them cannot be read. -/
theorem answerAll_inSession (settings : DialogueSettings) (input : LineInput) (s : Interpreter)
    (history : LineHistory) :
    InSession start s (answerAll settings input s history) fun _ _ => True := by
  induction input generalizing s history with
  | nil => exact .quiet_bind (ask_quiet _) fun _ => .pure trivial
  | cons line rest ih =>
    cases line with
    | none => exact .quiet_bind (ask_quiet _) fun _ => .fail _
    | some line =>
      refine .quiet_bind (ask_quiet _) fun _ => ?_
      refine .bind (respond_inSession settings line s) fun answer s' hsame => ?_
      obtain ⟨reply, s₁⟩ := answer
      obtain rfl : s₁ = s' := hsame
      cases reply with
      | exit => exact .pure trivial
      | silence => exact ih s₁ _
      | message text => exact .quiet_bind (.print _) fun _ => ih s₁ _

end Conversation

/-! ## What a session leaves -/

namespace Run

/-- `after` is left by a session from `start` on with these runs, except for its files: those may be
changed once more when nothing is run any more. -/
def Leaves (start : Interpreter × World) (runs : List (Interpreter × World)) (after : World) :
    Prop :=
  ∃ final, Session start runs final ∧ final.2.Becomes after.files [] after

/-- What comes after a session and is no action may be left as well. -/
theorem Leaves.becomes {fs : FileSystem} (h : Leaves start runs w) (hw : w.Becomes fs [] w') :
    Leaves start runs w' := by
  obtain ⟨final, hsession, hfinal⟩ := h
  have hafter := hfinal.trans hw
  exact ⟨final, hsession, hw.files ▸ hafter⟩

/-- The actions of what a session leaves are those of its runs. -/
theorem Leaves.actions_eq (h : Leaves start runs w) : Event.actions w.history =
    Event.actions start.2.history ++ runs.flatMap fun state => runActions state.1 state.2 := by
  obtain ⟨final, hsession, hfinal⟩ := h
  rw [hfinal.actions, List.append_nil, hsession.actions_eq]

/-- An effect that goes on with a session leaves what a session leaves. -/
theorem exists_leaves_of_inSession {α : Type} {x : Effect ε α} {ends : α → Interpreter → Prop}
    (hx : InSession start s x ends) (h : Session start runs (s, w)) :
    ∃ runs', Leaves start runs' (x w).2 := by
  obtain ⟨runs', s', hsession, -⟩ := hx runs w h
  exact ⟨runs', _, hsession, .refl _⟩

/-- A conversation leaves what a session leaves; the lines are kept when it is over. -/
theorem exists_leaves_hold (settings : DialogueSettings) (input : LineInput)
    (h : Session start runs (s, w)) :
    ∃ runs', Leaves start runs' (Conversation.hold settings input s w).2 := by
  have hfile : (Effect.ask (settings.historyPath? ·.environment) : Effect ReadError _) w =
      (.ok (settings.historyPath? w.environment), w) := rfl
  obtain ⟨history, loaded, hload, hloaded⟩ :=
    Conversation.exists_remembered settings (settings.historyPath? w.environment) w
  have hgreeted := World.Prints.record (.printed (Dialogue.helpText ++ "\n\n")) rfl loaded
  obtain ⟨runs', s', hsession, -⟩ := Conversation.answerAll_inSession settings input s history runs
    _ (.aside (hloaded.trans hgreeted).toBecomes h)
  have hanswered : Leaves start runs' _ := ⟨_, hsession, .refl _⟩
  refine ⟨runs', ?_⟩
  rw [Conversation.hold, Effect.bind_of_ok hfile, Effect.bind_of_ok hload,
    Effect.bind_of_ok (show Effect.print _ loaded = (.ok (), _) from rfl)]
  rcases hresult : Conversation.answerAll settings input s history _ with
    ⟨e | ⟨remembered, final⟩, ended⟩ <;> rw [hresult] at hanswered
  · -- A line could not be read, and nothing is kept.
    rw [Effect.bind_of_error hresult]
    exact hanswered
  · obtain ⟨fs, hkeep, -⟩ :=
      Conversation.exists_keep remembered (settings.historyPath? w.environment) ended
    have hleft := World.Prints.record (.printed "Bye!\n") rfl { ended with files := fs }
    rw [Effect.bind_of_ok hresult]
    simp only
    rw [Effect.bind_of_ok hkeep]
    exact (hanswered.becomes (.of_files ended fs)).becomes hleft.toBecomes

end Run

/-! ## The program -/

namespace Program

variable {options : Options} {settled file : Settings}

/-- The settings with which the program works, if the settings file can be read. -/
theorem settle_of_load (options : Options) (hfile : Settings.load w.environment w.files = .ok file) :
    settle options w = (.ok (file.settled options.compiler w.environment), w) := by
  have hread : (Effect.ask fun w => Settings.load w.environment w.files : Effect Failure _) w =
      (.ok (.ok file), w) := by
    rw [Effect.ask, hfile]
  rw [settle, Effect.bind_of_ok hread]
  rfl

/-- Checking a directory changes nothing. -/
theorem checkDirectory_quiet (path : Path) : (checkDirectory path).Quiet := by
  refine .mapError _ fun w => ?_
  rw [OutputDirectory.validate_eq]
  exact .refl w

/-- Looking for the output directory changes nothing if it has to have been given. -/
theorem requireDirectory_quiet (options : Options) (settings : Settings) :
    (requireDirectory options settings).Quiet := by
  intro w
  rw [requireDirectory_snd]
  exact .refl w

/-- Looking for the output directory only logs and prints, also if it has to be asked for. -/
theorem findDirectory_quiet (options : Options) (settings : Settings) (input : LineInput) :
    (findDirectory options settings input).Quiet := by
  rw [findDirectory]
  cases givenDirectory options settings with
  | some path => exact .bind (checkDirectory_quiet path) fun _ => .pure _
  | none =>
    have hread : (input.readLine directoryPrompt).Quiet := by
      refine .bind (Conversation.ask_quiet _) fun _ => ?_
      rcases input with - | ⟨- | line, rest⟩
      · exact .fail _
      · exact .fail _
      · exact .pure _
    exact .bind (.mapError _ hread) fun _ => .bind (checkDirectory_quiet _) fun _ => .pure _

/-- A conversation of the program leaves what the conversation itself leaves. -/
theorem converse_snd (settings : DialogueSettings) (input : LineInput) (s : Interpreter)
    (w : World) :
    (converse settings input s w).2 = (Conversation.hold settings input s w).2 := by
  rw [converse, Effect.bind_apply, Effect.mapError]
  rcases Conversation.hold settings input s w with ⟨e | final, after⟩ <;> rfl

/-- A command that gets no further than to a look at its directory leaves a session without turns;
otherwise it is the rest that counts. -/
theorem exists_leaves_bind {α : Type} {toolchain : Toolchain} {x : Effect Failure α}
    {f : α → Effect Failure UInt8} (hx : x.Quiet)
    (hf : ∀ a w', w.Alike w' →
      ∃ directory runs, Leaves (.new directory toolchain, w) runs (f a w').2) :
    ∃ directory runs, Leaves (.new directory toolchain, w) runs ((x >>= f) w).2 := by
  have halike := hx w
  rcases hresult : x w with ⟨e | a, mid⟩ <;> rw [hresult] at halike
  · rw [Effect.bind_of_error hresult]
    exact ⟨.empty, [], _, .aside halike .begin, .refl mid⟩
  · rw [Effect.bind_of_ok hresult]
    exact hf a mid halike

/-- Whatever a command does, with the settings it leaves what a session leaves that begins with an
interpreter for these settings. -/
theorem exists_leaves_perform (hsettings : settle options w = (.ok settled, w)) (command : Command)
    (input : LineInput) : ∃ directory runs,
      Leaves (.new directory settled.toolchain, w) runs (perform options command input w).2 := by
  rw [perform, Effect.bind_of_ok hsettings]
  cases command with
  | version =>
    refine exists_leaves_bind (.print _) fun _ w' hw => ?_
    exact ⟨.empty, [], _, .aside hw .begin, .refl w'⟩
  | execute imports fragments =>
    refine exists_leaves_bind (requireDirectory_quiet options settled) fun directory w' hw => ?_
    exact ⟨directory, exists_leaves_of_inSession (execute_inSession _ _ _) (.aside hw .begin)⟩
  | demo =>
    refine exists_leaves_bind (findDirectory_quiet options settled input) fun found w' hw => ?_
    exact ⟨found.1, exists_leaves_of_inSession (demonstrate_inSession _) (.aside hw .begin)⟩
  | converse =>
    refine exists_leaves_bind (findDirectory_quiet options settled input) fun found w' hw => ?_
    simp only [converse_snd]
    exact ⟨found.1, exists_leaves_hold _ _ (.aside hw .begin)⟩

/-- Concluding only reports. -/
theorem conclude_alike (x : Effect Failure UInt8) (w : World) :
    (x w).2.Alike (completed (conclude x) w).2 := by
  rcases hresult : x w with ⟨e | status, after⟩
  · have hattempt : (Effect.attempt x : Effect Empty _) w = (.ok (.error e), after) := by
      rw [Effect.attempt, hresult]
    rw [completed, conclude, Effect.bind_of_ok hattempt]
    exact Effect.Quiet.report (ε := Empty) e.report after
  · rw [completed_conclude_of_ok hresult]
    exact .refl after

/-- The program leaves what a session leaves. -/
theorem exists_leaves {arguments : List String} {command : Command} (bytes : List UInt8)
    (hparse : CommandLine.parse? arguments = some (.perform options command))
    (hsettings : settle options w = (.ok settled, w)) : ∃ directory runs,
      Leaves (.new directory settled.toolchain, w) runs (run arguments bytes w).world := by
  obtain ⟨directory, runs, hleaves⟩ :=
    exists_leaves_perform hsettings command (LineInput.ofBytes bytes)
  have hworld : (run arguments bytes w).world =
      (completed (conclude (perform options command (.ofBytes bytes))) w).2 := by
    rw [run, hparse]
    rfl
  rw [hworld]
  exact ⟨directory, runs, hleaves.becomes (conclude_alike _ w)⟩

/-- A computation has a failure for result if and only if it has no value. -/
theorem exists_eq_error_iff {α : Type} {r : Except ε α} :
    (∃ e, r = .error e) ↔ r.toOption = none := by
  cases r <;> simp [Except.toOption]

/-- The compiler of the program is the first that there is, of the one on the command line, the one
that the environment names, if its name is not empty, the one in the settings file, and the first
one on the search path. Looking into the environment again when the compiler is looked up changes
nothing, and neither does asking the environment more than once for the settings. All that the
program runs are the runs of one session. Each of them starts this compiler and no other, or fails
before that. A compile fails for want of a compiler if and only if there is none, and so does a run
that has written its unit. -/
theorem compiler_by_precedence {arguments : List String} {command : Command} (bytes : List UInt8)
    (hparse : CommandLine.parse? arguments = some (.perform options command))
    (hfile : Settings.load w.environment w.files = .ok file) :
    let env := w.environment
    let preferred (fs : FileSystem) : Option Path :=
      [options.compiler, (env.nonempty? compilerVariable).map .ofString, file.toolchain.compiler,
        (searchCompiler env fs).toOption].findSome? id
    let after := (run arguments bytes w).world
    ∃ settings directory runs, settle options w = (.ok settings, w) ∧
      (∀ fs, (settings.toolchain.resolve env fs).toOption = preferred fs) ∧
      (∀ fs program, searchCompiler env fs = .ok program ↔ IsFirstOnPath env fs program) ∧
      (∀ fs, settings.toolchain.resolve (env.without compilerVariable) fs =
        settings.toolchain.resolve env fs) ∧
      (∀ n, (Settings.applyEnvironment env)^[n + 1] file = file.applyEnvironment env) ∧
      (∀ (build : BuildDirectory) source v, build.toolchain = settings.toolchain →
        v.environment = env →
        ((∃ cause, (build.compile source v).1 = .error (.notFound cause)) ↔
          preferred v.files = none)) ∧
      Leaves (.new directory settings.toolchain, w) runs after ∧
      Event.actions after.history = Event.actions w.history ++
        runs.flatMap (fun state => runActions state.1 state.2) ∧
      ∀ s v, (s, v) ∈ runs → UsesCompiler s v (preferred v.files) ∧
        ((∃ cause, (s.run v).1 = .error (.build (.notFound cause))) ↔
          preferred v.files = none ∧ ∃ unit, s.build.Written s.draft.render v.files unit) := by
  intro env preferred after
  have hsettings := settle_of_load options hfile
  have hpreferred : ∀ fs, ((file.settled options.compiler env).toolchain.resolve env fs).toOption =
      preferred fs := Settings.toOption_resolve_settled options.compiler env file
  obtain ⟨directory, runs, hleaves⟩ := exists_leaves bytes hparse hsettings
  refine ⟨_, directory, runs, hsettings, hpreferred, fun fs program => searchCompiler_eq_ok_iff,
    Settings.resolve_settled_without options.compiler env file,
    Settings.iterate_applyEnvironment env file, fun build source v hbuild hv => ?_, hleaves,
    hleaves.actions_eq, fun s v hmem => ?_⟩
  · rw [← hpreferred, ← exists_eq_error_iff]
    simp only [BuildDirectory.compile_eq_notFound_iff, hbuild, hv]
    rfl
  · -- A run finds the settings and the environment that the session began with.
    obtain ⟨final, hsession, -⟩ := hleaves
    have hrun : (s.build.toolchain.resolve v.environment v.files).toOption =
        preferred v.files := by
      rw [hsession.toolchain_eq (s, v) hmem, hsession.environment_eq (s, v) hmem]
      exact hpreferred v.files
    refine ⟨hrun ▸ usesCompiler_resolve s v, ?_⟩
    simp only [run_eq_notFound_iff, exists_and_right, exists_eq_error_iff, hrun]

/-- A world in which the environment, the settings file and the search path each name a compiler. -/
def layered : World where
  files :=
    { entries :=
        [(["home".toList], .directory .full),
          (["home".toList, ".config".toList], .directory .full),
          (["home".toList, ".config".toList, "runlet".toList], .directory .full),
          (["home".toList, ".config".toList, "runlet".toList, "config.toml".toList],
            .file (.text "toolchain.rustc = \"stable\"") false),
          (["bin".toList], .directory .full),
          (["bin".toList, "rustc".toList], .file (.bytes []) true),
          (["opt".toList], .directory .full),
          (["opt".toList, "rustc".toList], .file (.bytes []) true),
          (["out".toList], .directory .full)]
      here := [] }
  environment := ⟨[("HOME", "/home"), ("PATH", "/bin"), ("RUNLET_RUSTC", "/opt/rustc")]⟩
  plans _ := { diagnostics := [], artifact := .nothing, exit := .exited 1 }
  history := []

/-- The compiler in the environment is preferred to the other two, and no run uses any but this. -/
theorem environment_preferred :
    let arguments := ["--out-dir", "/out", "exec", "let x = 1;"]
    let options : Options := { outputDirectory := some (.ofString "/out") }
    let file : Settings := { toolchain := { compiler := some (.ofString "stable") } }
    CommandLine.parse? arguments = some (.perform options (.execute [] ["let x = 1;"])) ∧
      Settings.load layered.environment layered.files = .ok file ∧
      ∃ settings directory runs, settle options layered = (.ok settings, layered) ∧
        (∀ fs, (settings.toolchain.resolve layered.environment fs).toOption =
          some (.ofString "/opt/rustc")) ∧
        Leaves (.new directory settings.toolchain, layered) runs
          (run arguments [] layered).world ∧
        ∀ s v, (s, v) ∈ runs → UsesCompiler s v (some (.ofString "/opt/rustc")) := by
  intro arguments options file
  have hparse : CommandLine.parse? arguments =
      some (.perform options (.execute [] ["let x = 1;"])) := by
    decide +kernel
  have hfile : Settings.load layered.environment layered.files = .ok file := by
    decide +kernel
  obtain ⟨settings, directory, runs, hsettings, hresolve, -, -, -, -, hleaves, -, huses⟩ :=
    compiler_by_precedence [] hparse hfile
  exact ⟨hparse, hfile, settings, directory, runs, hsettings, hresolve, hleaves,
    fun s v hmem => (huses s v hmem).1⟩

end Program

end FragmentRunner
