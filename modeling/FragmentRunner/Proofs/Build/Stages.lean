import FragmentRunner.Draft
import FragmentRunner.Proofs.Build.Artifact
import FragmentRunner.Proofs.Effect.Yields

/-!
# The stages of a build

Writing a source and compiling it, stage by stage. `Written`, `LogOpened`, `Launched` and `Compiled`
say that a stage and those before it succeeded, and what files it left; for each stage there is one
lemma for its success and one for each way in which it can fail. Whatever comes later in a build is
stated with these and opens neither `writeSource` nor `compile`.

* `SourceEnds.yields` and `exists_sourceEnds`: the four ways in which the writing of a source ends.
* `Written.writeSource` and `Compiled.compile`: what the two do if all goes well.
* `Compiled.content_source`: the source is still there after the compiler has ended.
* `Compiled.content_log`: the log holds what this compiler wrote to standard error.
* `CompileEnds.yields` and `exists_compileEnds`: the four ways in which a compile ends.
-/

namespace FragmentRunner.BuildDirectory

open FileSystem

/-! ## Writing the unit -/

/-- Fails unless `directory` is a directory to build in. -/
def checkDirectory (fs : FileSystem) (directory : Path) : Except IoError Unit :=
  match fs.status directory with
  | .ok (.directory _) => .ok ()
  | .ok (.file ..) => .error (.notAnOutputDirectory directory)
  | .error e => .error e

/-- The file that the unit is written to. -/
def unitSource (build : BuildDirectory) : Path :=
  build.directory.join (.ofString sourceFile)

/-- The build directory is one, and with the unit written to it the files are `fs`. -/
structure Written (build : BuildDirectory) (unit : String) (before fs : FileSystem) : Prop where
  directory : checkDirectory before build.directory = .ok ()
  source : before.write build.unitSource (.text unit) = .ok fs

/-- The files with the directories for the file `relative`, as far as these could be created. -/
def prepared (build : BuildDirectory) (relative : Path) (fs : FileSystem) :
    FileSystem × Except IoError Unit :=
  match relative.parent? with
  | none => (fs, .ok ())
  | some parent =>
    if parent.chars.isEmpty then (fs, .ok ())
    else fs.createDirectories (build.directory.join parent)

/-- The result of writing the source `relative`, and the files that this leaves. -/
inductive SourceEnds (build : BuildDirectory) (relative : Path) (content : String)
    (before : FileSystem) : Except BuildError Path → FileSystem → Prop
  | noDirectory {e : IoError} (h : checkDirectory before build.directory = .error e) :
      SourceEnds build relative content before (.error (.io e)) before
  | notPrepared {e : IoError} {fs : FileSystem}
      (hcheck : checkDirectory before build.directory = .ok ())
      (h : build.prepared relative before = (fs, .error e)) :
      SourceEnds build relative content before (.error (.io e)) fs
  | notWritten {e : IoError} {fs : FileSystem}
      (hcheck : checkDirectory before build.directory = .ok ())
      (hprepared : build.prepared relative before = (fs, .ok ()))
      (h : fs.write (build.directory.join relative) (.text content) = .error e) :
      SourceEnds build relative content before (.error (.io e)) fs
  | written {fs after : FileSystem} (hcheck : checkDirectory before build.directory = .ok ())
      (hprepared : build.prepared relative before = (fs, .ok ()))
      (h : fs.write (build.directory.join relative) (.text content) = .ok after) :
      SourceEnds build relative content before (.ok (build.directory.join relative)) after

section Write

variable {build : BuildDirectory} {relative : Path} {unit content : String} {w : World}
  {fs : FileSystem} {e : IoError} {r : Except BuildError Path}

/-- Looking at the build directory leaves everything as it is. -/
theorem check_eq (build : BuildDirectory) (w : World) :
    build.check w = (checkDirectory w.files build.directory, w) := by
  have hask : (Effect.ask (·.files.status build.directory) : Effect IoError _) w =
      (.ok (w.files.status build.directory), w) := rfl
  rw [check, checkDirectory, Effect.bind_of_ok hask]
  rcases w.files.status build.directory with - | ⟨access⟩ | ⟨stored, executable⟩ <;> rfl

/-- Looking at the build directory is no action. -/
theorem check_yields (build : BuildDirectory) (w : World) :
    build.check.Yields w (checkDirectory w.files build.directory) w.files [] :=
  .of_eq (check_eq build w) (.refl w)

/-- Making the directories for a source is no action, whether or not it fails. -/
theorem prepare_yields {made : Except IoError Unit}
    (h : build.prepared relative w.files = (fs, made)) :
    (build.prepare relative).Yields w made fs [] := by
  have hprepare : build.prepare relative w = (made, { w with files := fs }) := by
    rw [prepared] at h
    rw [prepare]
    cases hparent : relative.parent? with
    | none =>
      rw [hparent] at h
      obtain ⟨rfl, rfl⟩ := Prod.mk.inj h
      rfl
    | some parent =>
      simp only [hparent] at h
      simp only
      split_ifs at h ⊢
      · obtain ⟨rfl, rfl⟩ := Prod.mk.inj h
        rfl
      · rw [Effect.changeAnyway, h]
  exact .of_eq hprepare (.of_files w fs)

/-- Each rule is a way in which the writing of a source can end. -/
theorem SourceEnds.yields (h : SourceEnds build relative content w.files r fs) :
    (build.writeSource relative content).Yields w r fs [] := by
  have hcheck := Effect.Yields.mapError BuildError.io (check_yields build w)
  cases h with
  | noDirectory h =>
    rw [h] at hcheck
    exact .bind_error hcheck
  | notPrepared h hprepared =>
    rw [h] at hcheck
    refine .bind_quiet hcheck fun w₁ hw₁ => ?_
    rw [← hw₁.files] at hprepared
    exact .bind_error (Effect.Yields.mapError BuildError.io (prepare_yields hprepared))
  | notWritten h hprepared hwrite =>
    rw [h] at hcheck
    refine .bind_quiet hcheck fun w₁ hw₁ => ?_
    rw [← hw₁.files] at hprepared
    refine .bind_quiet (Effect.Yields.mapError BuildError.io (prepare_yields hprepared))
      fun w₂ hw₂ => ?_
    rw [← hw₂.files] at hwrite ⊢
    exact .bind_error (Effect.Yields.mapError BuildError.io (.change_error hwrite))
  | written h hprepared hwrite =>
    rw [h] at hcheck
    refine .bind_quiet hcheck fun w₁ hw₁ => ?_
    rw [← hw₁.files] at hprepared
    refine .bind_quiet (Effect.Yields.mapError BuildError.io (prepare_yields hprepared))
      fun w₂ hw₂ => ?_
    rw [← hw₂.files] at hwrite
    refine .bind_quiet (Effect.Yields.mapError BuildError.io (.change hwrite)) fun w₃ hw₃ => ?_
    refine .bind_quiet (.debug _ w₃) fun w₄ hw₄ => ?_
    -- After the write the files stay as they are.
    rw [← hw₃.files, ← hw₄.files]
    exact .pure _ w₄

/-- Some rule applies to every source: the steps are taken up to the first that fails. -/
theorem exists_sourceEnds (build : BuildDirectory) (relative : Path) (content : String)
    (before : FileSystem) : ∃ r fs, SourceEnds build relative content before r fs := by
  cases hcheck : checkDirectory before build.directory with
  | error e => exact ⟨_, _, .noDirectory hcheck⟩
  | ok u =>
  rcases hprepared : build.prepared relative before with ⟨fs, e | u⟩
  · exact ⟨_, _, .notPrepared hcheck hprepared⟩
  cases hwrite : fs.write (build.directory.join relative) (.text content) with
  | error e => exact ⟨_, _, .notWritten hcheck hprepared hwrite⟩
  | ok after => exact ⟨_, _, .written hcheck hprepared hwrite⟩

/-- The writing of every source ends by one of the rules. -/
theorem sourceEnds (build : BuildDirectory) (relative : Path) (content : String) (w : World) :
    SourceEnds build relative content w.files (build.writeSource relative content w).1
      (build.writeSource relative content w).2.files := by
  obtain ⟨r, fs, hends⟩ := exists_sourceEnds build relative content w.files
  rwa [hends.yields.1, hends.yields.2.files]

/-- The unit is written into the build directory itself, so no directory is made for it. -/
theorem prepared_sourceFile (build : BuildDirectory) (fs : FileSystem) :
    build.prepared (.ofString sourceFile) fs = (fs, .ok ()) := by
  have hparent : (Path.ofString sourceFile).parent? = some .empty := by decide
  rw [prepared, hparent]
  rfl

/-- Nothing is written if the build directory is none. -/
theorem writeSource_of_check_error (h : checkDirectory w.files build.directory = .error e) :
    (build.writeSource (.ofString sourceFile) unit).Yields w (.error (.io e)) w.files [] :=
  (SourceEnds.noDirectory h).yields

/-- A source that cannot be written leaves the files as they are. -/
theorem writeSource_of_write_error (hcheck : checkDirectory w.files build.directory = .ok ())
    (h : w.files.write build.unitSource (.text unit) = .error e) :
    (build.writeSource (.ofString sourceFile) unit).Yields w (.error (.io e)) w.files [] :=
  (SourceEnds.notWritten hcheck (prepared_sourceFile build w.files) h).yields

/-- A source that can be written is written. -/
theorem Written.writeSource (h : Written build unit w.files fs) :
    (build.writeSource (.ofString sourceFile) unit).Yields w (.ok build.unitSource) fs [] :=
  (SourceEnds.written h.directory (prepared_sourceFile build w.files) h.source).yields

end Write

/-! ## Compiling -/

/-- Where the library of a source is, if the compiler made one. -/
def library (build : BuildDirectory) (source : Path) : Path :=
  (build.libraryDirectory source).join (libraryName (crateName source))

/-- The compiler is `program`, and with a new log the files are `fs`. -/
structure LogOpened (build : BuildDirectory) (env : Environment) (before : FileSystem)
    (program : Path) (fs : FileSystem) : Prop where
  found : build.toolchain.resolve env before = .ok program
  log : before.write build.log (.bytes []) = .ok fs

/-- Fails unless `program` can be started with the given command line. -/
def checkStart (env : Environment) (fs : FileSystem) (program : Path) (command : List String) :
    Except IoError Unit :=
  if command.any fun argument => (Path.ofString argument).hasNul then .error .nulInCommand
  else (findProgram env fs program).map fun _ => ()

/-- The compiler `program` is started on `source`, and with what it has to say in the log the files
are `fs`. -/
inductive Launched (build : BuildDirectory) (source : Path) (env : Environment)
    (plan : CompilerPlan) (before : FileSystem) (program : Path) (fs : FileSystem) : Prop
  | intro {opened : FileSystem} (log : build.LogOpened env before program opened)
      (start : checkStart env opened program (build.commandLine source program) = .ok ())
      (diagnosed : opened.write build.log (.bytes plan.diagnostics) = .ok fs)

/-- The compiler `program` was started on `source` and ended, which left the files `fs`: its
diagnostics are in the log, and its artifact is where it could be written. -/
inductive Compiled (build : BuildDirectory) (source : Path) (env : Environment)
    (plan : CompilerPlan) (before : FileSystem) : Path → FileSystem → Prop
  | intro {program : Path} {logged : FileSystem}
      (launched : build.Launched source env plan before program logged) :
      Compiled build source env plan before program
        (plan.artifact.leave (build.commandLine source program) logged)

/-! ## What is in the files -/

section Content

variable {build : BuildDirectory} {unit : String} {env : Environment} {plan : CompilerPlan}
  {before written fs : FileSystem} {source program : Path}

/-- The file of the unit has a plain name. -/
theorem isPlain_sourceFile : Path.IsPlain "runner.rs".toList := by decide

/-- The log has a plain name. -/
theorem isPlain_logFile : Path.IsPlain "error.log".toList := by decide

/-- A log that was opened can be written to. -/
theorem LogOpened.diagnosed (h : build.LogOpened env before program fs)
    (diagnostics : List UInt8) :
    ∃ logged, fs.write build.log (.bytes diagnostics) = .ok logged := by
  obtain ⟨loc, hwritten⟩ := write_eq_ok h.log
  exact hwritten.write_again _

/-- What was written is the unit. -/
theorem Written.content_source (h : build.Written unit before written) :
    written.content build.unitSource = .ok (.text unit) := by
  obtain ⟨loc, hwritten⟩ := write_eq_ok h.source
  exact hwritten.content_eq

/-- The log is another file than the source. -/
theorem content_source_of_write_log {content : Content} {log : Content}
    (h : before.write build.log log = .ok fs)
    (hcontent : before.content build.unitSource = .ok content) :
    fs.content build.unitSource = .ok content :=
  content_of_write_beside isPlain_sourceFile isPlain_logFile (by decide) h hcontent

/-- The compiler leaves the source alone. -/
theorem Compiled.content_source (hwritten : build.Written unit before written)
    (h : build.Compiled source env plan written program fs) :
    fs.content build.unitSource = .ok (.text unit) := by
  obtain ⟨hopened, -, hdiagnosed⟩ := h
  -- The log is written twice, when it is opened and by the compiler.
  have hcontent := content_source_of_write_log hdiagnosed
    (content_source_of_write_log hopened.log hwritten.content_source)
  obtain ⟨loc, hlocate⟩ := exists_locate_of_content hcontent
  obtain ⟨above, -, -, hloc⟩ := locate_join_eq_ok isPlain_sourceFile hlocate
  rw [Artifact.leave_content hlocate (by rw [hloc, List.getLast?_concat]) (by decide), hcontent]

/-- After a compile the log holds exactly what this compiler wrote to standard error. -/
theorem Compiled.content_log (h : build.Compiled source env plan before program fs) :
    fs.content build.log = .ok (.bytes plan.diagnostics) := by
  obtain ⟨-, -, hdiagnosed⟩ := h
  obtain ⟨loc, hwritten, hlast⟩ := write_join_eq_ok isPlain_logFile hdiagnosed
  have hlocate := hwritten.toChangedAt.locate_eq_ok hwritten.locate_eq
  exact (Artifact.leave_content hlocate hlast (by decide)).trans hwritten.content_eq

end Content

/-! ## Running the compiler -/

section Compile

variable {build : BuildDirectory} {source program : Path} {w : World} {fs : FileSystem}

/-- A compiler that cannot be started leaves nothing behind. -/
theorem startCompiler_of_error {command : List String} {log : Path} {e : IoError}
    (h : checkStart w.environment w.files program (program.spelling :: command) = .error e) :
    (Effect.startCompiler program command log).Yields w (.error e) w.files [] := by
  have hstart : Effect.startCompiler program command log w = (.error e, w) := by
    rw [checkStart] at h
    rw [Effect.startCompiler]
    split_ifs at h ⊢
    · rw [Except.error.inj h]
    · cases hfind : findProgram w.environment w.files program with
      | error cause => simpa [hfind, Except.map] using h
      | ok found => simp [hfind, Except.map] at h
  exact .of_eq hstart (.refl w)

/-- A compiler that is started does what its plan says. -/
theorem startCompiler_of_ok {command : List String} {log : Path} {logged : FileSystem}
    (h : checkStart w.environment w.files program (program.spelling :: command) = .ok ())
    (hlogged : w.files.write log (.bytes w.compiler.diagnostics) = .ok logged) :
    (Effect.startCompiler program command log).Yields w (.ok w.compiler.exit)
      (w.compiler.artifact.leave (program.spelling :: command) logged)
      [.started (program.spelling :: command)] := by
  have hstart : Effect.startCompiler program command log w = (.ok w.compiler.exit,
      { w with
        files := w.compiler.artifact.leave (program.spelling :: command) logged
        history := w.history ++ [.started (program.spelling :: command)] }) := by
    rw [checkStart] at h
    rw [Effect.startCompiler]
    split_ifs at h ⊢
    cases hfind : findProgram w.environment w.files program with
    | error cause => simp [hfind, Except.map] at h
    | ok found => simp [hlogged, Except.toOption]
  exact .of_eq hstart ⟨rfl, rfl, rfl, List.filter_append ..⟩

/-- Looking for a compiler changes nothing. -/
theorem resolve_yields (build : BuildDirectory) (w : World) :
    (Effect.mapError BuildError.notFound
      (fun w => (build.toolchain.resolve w.environment w.files, w))).Yields w
      ((build.toolchain.resolve w.environment w.files).mapError .notFound) w.files [] :=
  .mapError _ ⟨rfl, .refl w⟩

/-- Nothing is compiled without a compiler. -/
theorem compile_of_resolve_error {e : LookupError}
    (h : build.toolchain.resolve w.environment w.files = .error e) :
    (build.compile source).Yields w (.error (.notFound e)) w.files [] := by
  have hresolve := resolve_yields build w
  rw [h] at hresolve
  exact .bind_error hresolve

/-- Nothing is compiled without a log. -/
theorem compile_of_log_error {e : IoError}
    (hfound : build.toolchain.resolve w.environment w.files = .ok program)
    (h : w.files.write build.log (.bytes []) = .error e) :
    (build.compile source).Yields w (.error (.io e)) w.files [] := by
  have hresolve := resolve_yields build w
  rw [hfound] at hresolve
  refine .bind_quiet hresolve fun w₁ hw₁ => ?_
  rw [← hw₁.files] at h ⊢
  exact .bind_error (Effect.Yields.mapError BuildError.io (.change_error h))

/-- A compiler that cannot be started leaves an empty log. -/
theorem compile_of_start_error {e : IoError}
    (hopened : build.LogOpened w.environment w.files program fs)
    (h : checkStart w.environment fs program (build.commandLine source program) = .error e) :
    (build.compile source).Yields w (.error (.notStarted program e)) fs [] := by
  have hresolve := resolve_yields build w
  rw [hopened.found] at hresolve
  refine .bind_quiet hresolve fun w₁ hw₁ => ?_
  have hlog := hopened.log
  rw [← hw₁.files] at hlog
  refine .bind_quiet (Effect.Yields.mapError BuildError.io (.change hlog)) fun w₂ hw₂ => ?_
  refine .bind_quiet (.debug _ w₂) fun w₃ hw₃ => ?_
  have hw := (hw₁.trans hw₂).trans hw₃
  rw [← hw.environment, ← hw₂.files, ← hw₃.files] at h
  rw [← hw₂.files, ← hw₃.files]
  exact .bind_error (Effect.Yields.mapError _ (startCompiler_of_error h))

/-- A compiler that is started decides by its exit whether the build succeeded. -/
theorem Compiled.compile
    (h : build.Compiled source w.environment w.compiler w.files program fs) :
    (build.compile source).Yields w
      (.ok { source, succeeded := w.compiler.exit.succeeded, log := build.log,
             library := build.library source })
      fs [.started (build.commandLine source program)] := by
  obtain ⟨hopened, hstart, hdiagnosed⟩ := h
  have hresolve := resolve_yields build w
  rw [hopened.found] at hresolve
  refine .bind_quiet hresolve fun w₁ hw₁ => ?_
  have hlog := hopened.log
  rw [← hw₁.files] at hlog
  refine .bind_quiet (Effect.Yields.mapError BuildError.io (.change hlog)) fun w₂ hw₂ => ?_
  refine .bind_quiet (.debug _ w₂) fun w₃ hw₃ => ?_
  -- The compiler is started where the log has been opened, in the environment of the beginning.
  have hw := (hw₁.trans hw₂).trans hw₃
  rw [← hw.environment, ← hw₂.files, ← hw₃.files] at hstart
  rw [← hw.compiler, ← hw₂.files, ← hw₃.files] at hdiagnosed
  rw [← hw.compiler]
  refine .bind_last (Effect.Yields.mapError _ (startCompiler_of_ok hstart hdiagnosed))
    fun w₄ hw₄ => ?_
  refine .bind_quiet (.info _ w₄) fun w₅ hw₅ => ?_
  rw [commandLine, ← hw₄.files, ← hw₅.files]
  exact .pure _ w₅

end Compile

/-! ## How a compile ends -/

/-- The result of a compile, the files it leaves and the programs it starts, for a compiler that
does what `plan` says. -/
inductive CompileEnds (build : BuildDirectory) (source : Path) (env : Environment)
    (plan : CompilerPlan) (before : FileSystem) :
    Except BuildError Build → FileSystem → List Event → Prop
  | noCompiler {e : LookupError} (h : build.toolchain.resolve env before = .error e) :
      CompileEnds build source env plan before (.error (.notFound e)) before []
  | noLog {program : Path} {e : IoError} (hfound : build.toolchain.resolve env before = .ok program)
      (h : before.write build.log (.bytes []) = .error e) :
      CompileEnds build source env plan before (.error (.io e)) before []
  | notStarted {program : Path} {opened : FileSystem} {e : IoError}
      (hopened : build.LogOpened env before program opened)
      (h : checkStart env opened program (build.commandLine source program) = .error e) :
      CompileEnds build source env plan before (.error (.notStarted program e)) opened []
  | ended {program : Path} {compiled : FileSystem}
      (h : build.Compiled source env plan before program compiled) :
      CompileEnds build source env plan before
        (.ok { source, succeeded := plan.exit.succeeded, log := build.log,
               library := build.library source })
        compiled [.started (build.commandLine source program)]

section Ends

variable {build : BuildDirectory} {source : Path} {w : World} {r : Except BuildError Build}
  {fs : FileSystem} {acts : List Event}

/-- Each rule is a way in which a compile can end. -/
theorem CompileEnds.yields
    (h : CompileEnds build source w.environment w.compiler w.files r fs acts) :
    (build.compile source).Yields w r fs acts := by
  cases h with
  | noCompiler h => exact compile_of_resolve_error h
  | noLog hfound h => exact compile_of_log_error hfound h
  | notStarted hopened h => exact compile_of_start_error hopened h
  | ended h => exact h.compile

/-- Some rule applies to every compile: the stages are passed up to the first that fails. -/
theorem exists_compileEnds (build : BuildDirectory) (source : Path) (env : Environment)
    (plan : CompilerPlan) (before : FileSystem) :
    ∃ r fs acts, CompileEnds build source env plan before r fs acts := by
  cases hfound : build.toolchain.resolve env before with
  | error e => exact ⟨_, _, _, .noCompiler hfound⟩
  | ok program =>
  cases hlog : before.write build.log (.bytes []) with
  | error e => exact ⟨_, _, _, .noLog hfound hlog⟩
  | ok opened =>
  have hopened : build.LogOpened env before program opened := ⟨hfound, hlog⟩
  cases hstart : checkStart env opened program (build.commandLine source program) with
  | error e => exact ⟨_, _, _, .notStarted hopened hstart⟩
  | ok u =>
  obtain ⟨logged, hdiagnosed⟩ := hopened.diagnosed plan.diagnostics
  exact ⟨_, _, _, .ended ⟨⟨hopened, hstart, hdiagnosed⟩⟩⟩

/-- A compile that returned has started a compiler. -/
theorem exists_compiled {made : Build} (h : (build.compile source w).1 = .ok made) :
    ∃ program fs, build.Compiled source w.environment w.compiler w.files program fs := by
  obtain ⟨r, fs, acts, hends⟩ :=
    exists_compileEnds build source w.environment w.compiler w.files
  obtain rfl := h.symm.trans hends.yields.1
  -- The other rules have failures for results.
  cases hends with
  | ended hcompiled => exact ⟨_, _, hcompiled⟩

end Ends

end FragmentRunner.BuildDirectory
