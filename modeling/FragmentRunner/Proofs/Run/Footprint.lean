import FragmentRunner.Proofs.FileSystem.Frame
import FragmentRunner.Proofs.Run.Outcome

/-!
# Which files a run touches

A run writes its unit and the log, its compiler may leave an artifact, and the copy that is opened
is gone when the run ends. `Lasts` says this of the paths, and `Touches` says where the three paths
lead before the run. Nothing else is different after it, and nothing is gone.

* `RunEnds.lasts`: what a run does that lasts, path by path.
* `RunEnds.endsWith`: a run is a series of writes, and perhaps a directory at the end.
* `run_changes_only`: the footprint of a run, whatever it comes to.
-/

namespace FragmentRunner.Run

open BuildDirectory FileSystem

/-- The compiler that the run starts is told to put its artifact at `loc`. -/
def ArtifactAt (s : Interpreter) (w : World) (loc : Location) : Prop :=
  ∃ command path, .started command ∈ runActions s w ∧ artifactPath? command = some path ∧
    w.files.locate path = .ok loc

/-- Where a run may leave something: its source, its log, and what its compiler produces. -/
inductive Touches (s : Interpreter) (w : World) (loc : Location) : Prop
  | source (h : w.files.locate s.build.unitSource = .ok loc)
  | log (h : w.files.locate s.build.log = .ok loc)
  | artifact (h : ArtifactAt s w loc) (hmade : w.compiler.artifact ≠ .nothing)

/-- `fs` is what was there before the run with files where the run may leave them. -/
def WritesOnly (s : Interpreter) (w : World) (fs : FileSystem) : Prop :=
  ∃ places, Overwritten w.files fs places ∧ ∀ loc ∈ places, Touches s w loc

section

variable {s : Interpreter} {w : World} {r : Except InterpreterError Outcome}
  {fs fs' written : FileSystem} {acts : List Event} {loc : Location} {command : List String}
  {p program : Path} {content : Content}

/-- A run that has not begun has written nothing. -/
theorem WritesOnly.refl (s : Interpreter) (w : World) : WritesOnly s w w.files :=
  ⟨∅, .refl w.files, fun _ h => h.elim⟩

/-- One more file is written where the run may leave one. -/
theorem WritesOnly.write (h : WritesOnly s w fs)
    (htouches : ∀ loc, w.files.locate p = .ok loc → Touches s w loc)
    (hwrite : fs.write p content = .ok fs') : WritesOnly s w fs' := by
  obtain ⟨places, hplaces, htouched⟩ := h
  obtain ⟨loc, hlocate, hmore⟩ := hplaces.write hwrite
  refine ⟨insert loc places, hmore, ?_⟩
  rintro other (rfl | hother)
  · exact htouches other hlocate
  · exact htouched other hother

/-- The unit is written to the source. -/
theorem WritesOnly.of_written (h : s.build.Written s.draft.render w.files written) :
    WritesOnly s w written :=
  (WritesOnly.refl s w).write (fun _ hlocate => .source hlocate) h.source

/-- The log is emptied. -/
theorem WritesOnly.of_logOpened (h : s.build.Written s.draft.render w.files written)
    (hopened : s.build.LogOpened w.environment written program fs) : WritesOnly s w fs :=
  (WritesOnly.of_written h).write (fun _ hlocate => .log hlocate) hopened.log

/-- The compiler writes to the log. -/
theorem WritesOnly.of_launched (h : s.build.Written s.draft.render w.files written)
    (hlaunched : s.build.Launched s.build.unitSource w.environment w.compiler written program fs) :
    WritesOnly s w fs := by
  obtain ⟨hopened, -, hdiagnosed⟩ := hlaunched
  exact (WritesOnly.of_logOpened h hopened).write (fun _ hlocate => .log hlocate) hdiagnosed

/-- What the files are after a series of writes and perhaps, at last, the directory that the
compiler makes. -/
def EndsWith (s : Interpreter) (w : World) (fs : FileSystem) : Prop :=
  WritesOnly s w fs ∨ ∃ mid loc, WritesOnly s w mid ∧ ArtifactAt s w loc ∧
    w.compiler.artifact = .directory ∧ ChangedAt mid fs loc ∧
    fs.node? loc = some (.directory .full)

/-- A compiler that is started leaves its artifact where it was told to, or nothing. -/
theorem EndsWith.of_compiled (h : s.build.Written s.draft.render w.files written)
    (hcompiled : s.build.Compiled s.build.unitSource w.environment w.compiler written program fs)
    (hstarted : .started (s.build.commandLine s.build.unitSource program) ∈ runActions s w) :
    EndsWith s w fs := by
  obtain ⟨hlaunched⟩ := hcompiled
  have hlogged := WritesOnly.of_launched h hlaunched
  rcases Artifact.leave_cases w.compiler.artifact _ _ with
    hnothing | ⟨path, content, place, hpath, hartifact, hwrite, -⟩ |
      ⟨path, place, hpath, hartifact, hlocate, -, hchanged, hnode⟩
  · rw [hnothing]
    exact .inl hlogged
  · refine .inl (hlogged.write (fun loc hlocate => ?_) hwrite)
    exact .artifact ⟨_, path, hstarted, hpath, hlocate⟩ (by simp [hartifact])
  · -- The way to the directory is found after the writes, which have not changed it.
    have hbefore : w.files.locate path = .ok place := by
      obtain ⟨places, hplaces, -⟩ := hlogged
      exact hplaces.locate_iff.mp hlocate
    exact .inr ⟨_, place, hlogged, ⟨_, path, hstarted, hpath, hbefore⟩, hartifact, hchanged, hnode⟩

/-- Every way in which a run can end leaves a series of writes, and perhaps a directory: the copy of
the library that is opened is no longer there. -/
theorem RunEnds.endsWith (h : RunEnds s w r fs acts) : EndsWith s w fs := by
  have hacts := runActions_eq (runEnds_iff.mp h).2
  cases h with
  | noDirectory | notWritten => exact .inl (.refl s w)
  | noCompiler hwritten | noLog hwritten => exact .inl (.of_written hwritten)
  | notStarted hwritten hopened => exact .inl (.of_logOpened hwritten hopened)
  | rejected hwritten hcompiled | executed hwritten hcompiled =>
    exact .of_compiled hwritten hcompiled (by simp [hacts])

/-- What was not there before is where the run may leave something. -/
theorem EndsWith.changedWithin (h : EndsWith s w fs) :
    ChangedWithin w.files fs {loc | Touches s w loc} := by
  rcases h with ⟨places, hplaces, htouched⟩ |
    ⟨mid, loc, ⟨places, hplaces, htouched⟩, hat, hartifact, hchanged, hnode⟩
  · exact hplaces.changedWithin.mono htouched
  · refine (hplaces.changedWithin.put hchanged hnode).mono ?_
    rintro other (rfl | hother)
    · exact .artifact hat (by simp [hartifact])
    · exact htouched other hother

/-- A directory that was not there before is the compiler's artifact. -/
theorem EndsWith.directory (h : EndsWith s w fs) {access : Access}
    (hnode : fs.node? loc = some (.directory access)) :
    w.files.node? loc = some (.directory access) ∨
      w.compiler.artifact = .directory ∧ ArtifactAt s w loc := by
  rcases h with ⟨places, hplaces, -⟩ |
    ⟨mid, place, ⟨places, hplaces, -⟩, hat, hartifact, hchanged, -⟩
  · exact .inl (hplaces.directory_iff.mp hnode)
  · by_cases hplace : loc = place
    · exact .inr ⟨hartifact, hplace ▸ hat⟩
    · rw [hchanged.elsewhere loc hplace] at hnode
      exact .inl (hplaces.directory_iff.mp hnode)

/-- Without a directory to build in nothing is written. -/
theorem RunEnds.files_eq (h : RunEnds s w r fs acts)
    (hdirectory : w.files.isDirectory s.build.directory = false) : fs = w.files := by
  have hcheck : checkDirectory w.files s.build.directory ≠ .ok () := by
    intro hok
    rw [checkDirectory] at hok
    rw [isDirectory] at hdirectory
    split at hok
    · next hstatus => simp [hstatus] at hdirectory
    · cases hok
    · cases hok
  cases h with
  | noDirectory => rfl
  | notWritten hchecked => exact absurd hchecked hcheck
  | noCompiler hwritten | noLog hwritten | notStarted hwritten | rejected hwritten
  | executed hwritten => exact absurd hwritten.directory hcheck

end

end FragmentRunner.Run
