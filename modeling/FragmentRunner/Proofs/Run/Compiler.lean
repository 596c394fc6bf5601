import FragmentRunner.Proofs.Build.Lookup
import FragmentRunner.Proofs.Run.Ending

/-!
# The compiler of a run

A run looks its compiler up after it has written the unit, and starts no other program. Writing the
unit makes no difference to the lookup, so the compiler of a run is settled by the files that the
run begins with.

* `compile_eq_notFound_iff`: a compile fails for want of a compiler if and only if there is none.
* `usesCompiler_resolve`: a run starts the compiler that it finds, or fails before that.
* `run_eq_notFound_iff`: a run fails for want of a compiler if and only if it has written its unit,
  and there is none.
-/

namespace FragmentRunner

/-- A compile fails for want of a compiler if and only if none is found. -/
theorem BuildDirectory.compile_eq_notFound_iff {build : BuildDirectory} {source : Path} {w : World}
    {cause : LookupError} : (build.compile source w).1 = .error (.notFound cause) ↔
      build.toolchain.resolve w.environment w.files = .error cause := by
  constructor
  · intro hfailed
    obtain ⟨r, fs, acts, hends⟩ :=
      exists_compileEnds build source w.environment w.compiler w.files
    have hresult := hfailed.symm.trans hends.yields.1
    cases hends with
    | noCompiler hmissing =>
      cases hresult
      exact hmissing
    | noLog | notStarted | ended => cases hresult
  · intro hmissing
    exact (CompileEnds.noCompiler hmissing).yields.1

namespace Run

open BuildDirectory FileSystem

/-- What a run does with the compiler that it should use, if there is one: the stages that it has
passed, and what happened at the next. -/
inductive UsesCompiler (s : Interpreter) (w : World) : Option Path → Prop
  | notWritten {preferred : Option Path} {e : IoError}
      (h : ∀ written, ¬s.build.Written s.draft.render w.files written)
      (hresult : (s.run w).1 = .error (.build (.io e))) (hactions : runActions s w = []) :
      UsesCompiler s w preferred
  | notFound {written : FileSystem} {cause : LookupError}
      (hwritten : s.build.Written s.draft.render w.files written)
      (hresult : (s.run w).1 = .error (.build (.notFound cause)))
      (hactions : runActions s w = []) :
      UsesCompiler s w none
  | noLog {written : FileSystem} {program : Path} {e : IoError}
      (hwritten : s.build.Written s.draft.render w.files written)
      (h : written.write s.build.log (.bytes []) = .error e)
      (hresult : (s.run w).1 = .error (.build (.io e))) (hactions : runActions s w = []) :
      UsesCompiler s w (some program)
  | notStarted {written opened : FileSystem} {program : Path} {e : IoError}
      (hwritten : s.build.Written s.draft.render w.files written)
      (hopened : written.write s.build.log (.bytes []) = .ok opened)
      (h : checkStart w.environment opened program
        (s.build.commandLine s.build.unitSource program) = .error e)
      (hresult : (s.run w).1 = .error (.build (.notStarted program e)))
      (hactions : runActions s w = []) :
      UsesCompiler s w (some program)
  | started {written opened : FileSystem} {program : Path}
      (hwritten : s.build.Written s.draft.render w.files written)
      (hopened : written.write s.build.log (.bytes []) = .ok opened)
      (h : checkStart w.environment opened program
        (s.build.commandLine s.build.unitSource program) = .ok ())
      (hstarted : Event.startedPrograms (runActions s w) =
        [s.build.commandLine s.build.unitSource program]) :
      UsesCompiler s w (some program)

section

variable {s : Interpreter} {w : World} {build : BuildDirectory} {unit : String}
  {before written : FileSystem}

/-- The compiler that is found when the unit has been written is the one that was there before. -/
theorem resolve_of_written (h : build.Written unit before written) (toolchain : Toolchain)
    (env : Environment) : toolchain.resolve env written = toolchain.resolve env before :=
  resolve_of_write toolchain env isPlain_sourceFile (by decide) h.source

/-- A run starts the compiler that there is, or fails before that. -/
theorem usesCompiler_resolve (s : Interpreter) (w : World) :
    UsesCompiler s w (s.build.toolchain.resolve w.environment w.files).toOption := by
  obtain ⟨fs, acts, hends, hworld⟩ := exists_runEnds s w
  have hactions := runActions_eq hworld
  generalize hresult : (s.run w).1 = result at hends
  cases hends with
  | noDirectory h =>
    refine .notWritten (fun written hwritten => ?_) hresult hactions
    rw [hwritten.directory] at h
    cases h
  | notWritten hdirectory h =>
    refine .notWritten (fun written hwritten => ?_) hresult hactions
    rw [hwritten.source] at h
    cases h
  | noCompiler hwritten h =>
    rw [resolve_of_written hwritten] at h
    rw [h]
    exact .notFound hwritten hresult hactions
  | noLog hwritten hfound h =>
    rw [resolve_of_written hwritten] at hfound
    rw [hfound]
    exact .noLog hwritten h hresult hactions
  | notStarted hwritten hopened h =>
    obtain ⟨hfound, hlog⟩ := hopened
    rw [resolve_of_written hwritten] at hfound
    rw [hfound]
    exact .notStarted hwritten hlog h hresult hactions
  | rejected hwritten hcompiled =>
    obtain ⟨⟨hfound, hlog⟩, hstart, -⟩ := hcompiled
    rw [resolve_of_written hwritten] at hfound
    rw [hfound]
    exact .started hwritten hlog hstart (hactions ▸ rfl)
  | executed hwritten hcompiled hexit hexecutes =>
    obtain ⟨⟨hfound, hlog⟩, hstart, -⟩ := hcompiled
    rw [resolve_of_written hwritten] at hfound
    rw [hfound]
    refine .started hwritten hlog hstart ?_
    -- The unit is loaded and called; that starts no other program.
    rcases hexecutes.error_or_opens with ⟨-, rfl⟩ | ⟨-, -, -, -, -, rfl⟩ <;> exact hactions ▸ rfl

/-- A run fails for want of a compiler if and only if it has written its unit, and there is no
compiler for that cause. -/
theorem run_eq_notFound_iff {cause : LookupError} :
    (s.run w).1 = .error (.build (.notFound cause)) ↔
      s.build.toolchain.resolve w.environment w.files = .error cause ∧
        ∃ written, s.build.Written s.draft.render w.files written := by
  constructor
  · intro hresult
    obtain ⟨fs, acts, hends, -⟩ := exists_runEnds s w
    rw [hresult] at hends
    generalize hcause : Except.error _ = result at hends
    cases hends with
    | noCompiler hwritten h =>
      cases hcause
      exact ⟨resolve_of_written hwritten _ _ ▸ h, _, hwritten⟩
    | executed hwritten hcompiled hexit hexecutes => cases hexecutes <;> cases hcause
    | noDirectory | notWritten | noLog | notStarted | rejected => cases hcause
  · rintro ⟨hmissing, written, hwritten⟩
    rw [← resolve_of_written hwritten] at hmissing
    exact (runEnds_iff.mp (.noCompiler hwritten hmissing)).1

end

end Run

end FragmentRunner
