import FragmentRunner.Proofs.Build.Library
import FragmentRunner.Proofs.Run.Outcome

/-!
# Which library a run executes

A run looks for its library under a name that is the same for every run, and nothing removes the
library of an earlier one. `Fresh` says what one would want of a run: it executes only what its own
compiler wrote. That holds except for one case, `Leftover`: the compiler says that it succeeded and
writes no library, and there is one from before.

* `fresh_iff_not_leftover`: a run is fresh exactly if it is not of that kind.
-/

namespace FragmentRunner.Run

open BuildDirectory FileSystem

/-- The run starts the compiler with `command`, and the compiler finds the files `fs`. -/
inductive Starts (s : Interpreter) (w : World) : List String → FileSystem → Prop
  | intro {written fs : FileSystem} {program : Path}
      (hwritten : s.build.Written s.draft.render w.files written)
      (hlaunched : s.build.Launched s.build.unitSource w.environment w.compiler written program
        fs) :
      Starts s w (s.build.commandLine s.build.unitSource program) fs

/-- Where a run looks for its library. -/
def libraryOf (s : Interpreter) : Path :=
  s.build.library s.build.unitSource

/-- The compiler that the run starts writes `content` to the file where the run looks for its
library. -/
def Writes (s : Interpreter) (w : World) (content : Content) : Prop :=
  ∃ command fs, Starts s w command fs ∧
    Produces w.compiler.artifact command fs (libraryOf s) content

/-- A run executes only what its own compiler wrote, and if that says that it succeeded and has
written nothing, then no library is found. -/
structure Fresh (s : Interpreter) (w : World) : Prop where
  called : ∀ symbol, .called symbol ∈ runActions s w →
    ∃ image status, Calls s w image status ∧ Writes s w (.image image)
  missing : (∃ command fs, Starts s w command fs) → w.compiler.exit = .exited 0 →
    (∀ content, ¬ Writes s w content) →
    (s.run w).1 = .error (.load (.missing (libraryOf s))) ∧
      ∀ symbol, .called symbol ∉ runActions s w

/-- The compiler that the run starts says that it succeeded and writes no library, where a file
stood before the run. -/
structure Leftover (s : Interpreter) (w : World) : Prop where
  started : ∃ command fs, Starts s w command fs
  exit : w.compiler.exit = .exited 0
  nothing : ∀ content, ¬ Writes s w content
  isFile : w.files.isFile (libraryOf s) = true

section

variable {s : Interpreter} {w : World} {command : List String} {fs : FileSystem}

/-- A run starts one compiler at most. -/
theorem Starts.unique {command' : List String} {fs' : FileSystem} (h : Starts s w command fs)
    (h' : Starts s w command' fs') : command = command' ∧ fs = fs' := by
  obtain ⟨hwritten, hopened, -, hdiagnosed⟩ := h
  obtain ⟨hwritten', hopened', -, hdiagnosed'⟩ := h'
  obtain rfl := Except.ok.inj (hwritten.source.symm.trans hwritten'.source)
  obtain rfl := Except.ok.inj (hopened.found.symm.trans hopened'.found)
  obtain rfl := Except.ok.inj (hopened.log.symm.trans hopened'.log)
  exact ⟨rfl, Except.ok.inj (hdiagnosed.symm.trans hdiagnosed')⟩

/-- Where the compiler wrote nothing, a file stands after it ended if and only if one stood there
before the run. -/
theorem Starts.isFile_library (h : Starts s w command fs)
    (hnothing : ∀ content, ¬ Writes s w content) :
    (w.compiler.artifact.leave command fs).isFile (libraryOf s) = w.files.isFile (libraryOf s) := by
  obtain ⟨hwritten, hlaunched⟩ := h
  exact hlaunched.isFile_library hwritten fun content hproduces =>
    hnothing content ⟨_, _, ⟨hwritten, hlaunched⟩, hproduces⟩

/-- After a compiler that says that it succeeded, the library decides how the run ends. -/
theorem Starts.run (h : Starts s w command fs) (hexit : w.compiler.exit = .exited 0)
    {result : Except InterpreterError Completion} {acts : List Event}
    (hexecutes : Executes (w.compiler.artifact.leave command fs) (libraryOf s) result acts) :
    (s.run w).1 = result.map .executed ∧ runActions s w = .started command :: acts := by
  obtain ⟨hwritten, hlaunched⟩ := h
  obtain ⟨hresult, hworld⟩ :=
    runEnds_iff.mp (Ends.executed hwritten ⟨hlaunched⟩ hexit hexecutes)
  exact ⟨hresult, runActions_eq hworld⟩

/-- The image that a run calls is in the library when the compiler has ended. -/
theorem Calls.starts {image : Image} {status : Int32} (h : Calls s w image status) :
    ∃ command fs, Starts s w command fs ∧ w.compiler.exit = .exited 0 ∧
      (w.compiler.artifact.leave command fs).content (libraryOf s) = .ok (.image image) := by
  obtain ⟨hwritten, ⟨hlaunched⟩, hexit, hopens, -⟩ := h
  exact ⟨_, _, ⟨hwritten, hlaunched⟩, hexit, hopens.content⟩

/-- The path of the library does not end with a slash. -/
theorem endsWithSlash_libraryOf (s : Interpreter) : (libraryOf s).endsWithSlash = false := by
  obtain ⟨parent, -, hlibrary, -⟩ := library_unitSource s.build
  rw [libraryOf, hlibrary]
  exact Path.endsWithSlash_join parent isPlain_runnerLibrary

/-- A run executes what its compiler wrote, or else what was left over. -/
theorem Calls.writes_or_leftover {image : Image} {status : Int32} (h : Calls s w image status) :
    Writes s w (.image image) ∨ Leftover s w := by
  obtain ⟨command, fs, hstarts, hexit, hcontent⟩ := h.starts
  by_cases hwrites : ∃ content, Writes s w content
  · -- What was written is what is called: both are what is in the library afterwards.
    left
    obtain ⟨content, command', fs', hstarts', hproduces⟩ := hwrites
    obtain ⟨rfl, rfl⟩ := hstarts.unique hstarts'
    have hwritten := hproduces.content_leave (endsWithSlash_libraryOf s)
    obtain rfl := Except.ok.inj (hwritten.symm.trans hcontent)
    exact ⟨command, fs, hstarts, hproduces⟩
  · right
    have hnothing := not_exists.mp hwrites
    refine ⟨⟨command, fs, hstarts⟩, hexit, hnothing, ?_⟩
    rw [← hstarts.isFile_library hnothing]
    exact isFile_of_content hcontent

/-- A library that was left over is found. -/
theorem Leftover.not_missing (h : Leftover s w) :
    (s.run w).1 ≠ .error (.load (.missing (libraryOf s))) := by
  obtain ⟨⟨command, fs, hstarts⟩, hexit, hnothing, hfile⟩ := h
  rw [← hstarts.isFile_library hnothing] at hfile
  obtain ⟨result, acts, hexecutes⟩ :=
    exists_executes (w.compiler.artifact.leave command fs) (libraryOf s)
  intro hresult
  rw [(hstarts.run hexit hexecutes).1] at hresult
  -- Of all the ways in which an execution ends, only that of no file has this result.
  cases hexecutes with
  | missing h => exact absurd hfile (by rw [h]; decide)
  | notStaged | notCopied | notOpened | symbolNotFound | completed | panicked | unexpectedStatus =>
    cases hresult

/-- Without a library nothing is called. -/
theorem Starts.missing (h : Starts s w command fs) (hexit : w.compiler.exit = .exited 0)
    (hnothing : ∀ content, ¬ Writes s w content) (hfile : w.files.isFile (libraryOf s) = false) :
    (s.run w).1 = .error (.load (.missing (libraryOf s))) ∧
      ∀ symbol, .called symbol ∉ runActions s w := by
  rw [← h.isFile_library hnothing] at hfile
  obtain ⟨hresult, hacts⟩ := h.run hexit (.missing hfile)
  refine ⟨hresult, fun symbol hcalled => ?_⟩
  rw [hacts] at hcalled
  simp at hcalled

/-- A run is fresh, except when its compiler says that it succeeded, writes no library, and finds
one there. -/
theorem fresh_iff_not_leftover (s : Interpreter) (w : World) : Fresh s w ↔ ¬ Leftover s w := by
  constructor
  · intro hfresh hleftover
    exact hleftover.not_missing
      (hfresh.missing hleftover.started hleftover.exit hleftover.nothing).1
  · intro hleftover
    refine ⟨fun symbol hcalled => ?_, fun ⟨command, fs, hstarts⟩ hexit hnothing => ?_⟩
    · obtain ⟨-, image, status, hcalls⟩ := called_mem_runActions_iff.mp hcalled
      exact ⟨image, status, hcalls, hcalls.writes_or_leftover.resolve_right hleftover⟩
    · refine hstarts.missing hexit hnothing ?_
      rw [Bool.eq_false_iff]
      exact fun hfile => hleftover ⟨⟨command, fs, hstarts⟩, hexit, hnothing, hfile⟩

end

/-- An interpreter with one statement. -/
def oneStatement : Interpreter where
  draft := { statements := ["unreachable!();"] }
  build := {
    directory := .ofString "out"
    toolchain := { compiler := some (.ofString "bin/rustc") } }

/-- A build directory that still has a library, and a compiler that ends as if it had succeeded
without writing one. -/
def withLibrary : World where
  files := {
    entries := [
      (["out".toList, "librunner.so".toList], .file (.image ⟨[(entrySymbol, 0)]⟩) false),
      (["out".toList], .directory .full),
      (["bin".toList, "rustc".toList], .file (.bytes []) true),
      (["bin".toList], .directory .full)]
    here := [] }
  environment := ⟨[]⟩
  plans _ := ⟨[], .nothing, .exited 0⟩
  history := []

/-- A library that was left over is executed in the place of the statement. -/
theorem leftover_executed :
    (oneStatement.run withLibrary).1 = .ok (.executed .completed) ∧
    .called entrySymbol ∈ runActions oneStatement withLibrary ∧
    ¬ Fresh oneStatement withLibrary := by
  have hcalled : .called entrySymbol ∈ runActions oneStatement withLibrary := by decide +kernel
  refine ⟨by decide +kernel, hcalled, fun hfresh => ?_⟩
  obtain ⟨image, status, -, command, fs, -, hproduces⟩ := hfresh.called _ hcalled
  cases hproduces.artifact_eq

end FragmentRunner.Run
