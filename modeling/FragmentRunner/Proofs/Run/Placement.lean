import FragmentRunner.Proofs.Build.Library
import FragmentRunner.Proofs.Build.OutputDirectory
import FragmentRunner.Proofs.Run.Footprint

/-!
# Where a run writes

Three files are written by a run itself and not by its compiler: the unit, the log, and the copy of
the library that is opened. The copy is made beside the library, whose directory is spelled as the
parent of the source. All three lie directly in the build directory, however that is spelled.

* `WritesTo.directlyIn`: each of the three lies in the build directory itself.
* `changedWithin_run`: whatever else a run changes is the artifact of its compiler.
-/

namespace FragmentRunner.Run

open BuildDirectory FileSystem

/-- The location is that of a name in the directory which `directory` names. -/
def DirectlyIn (fs : FileSystem) (directory : Path) (loc : Location) : Prop :=
  ∃ above name, fs.locate directory = .ok above ∧ loc = above ++ [name]

/-- Where a run writes a file itself, as far as it gets: the unit, the log, and the copy of the
library that it opens. -/
inductive WritesTo (s : Interpreter) (w : World) (loc : Location) : Prop
  | source (h : w.files.locate s.build.unitSource = .ok loc)
  | log (h : w.files.locate s.build.log = .ok loc)
  | copy {written compiled after : FileSystem} {program copied : Path} {content : Content}
      (hwritten : s.build.Written s.draft.render w.files written)
      (hcompiled : s.build.Compiled s.build.unitSource w.environment w.compiler written program
        compiled)
      (hexit : w.compiler.exit = .exited 0)
      (hstaged : stageCopy compiled (s.build.library s.build.unitSource) content =
        .ok (copied, after))
      (h : compiled.locate copied = .ok loc)

section

variable {s : Interpreter} {w : World} {fs written compiled after : FileSystem}
  {directory library program copied : Path} {content : Content} {loc above : Location} {name : Name}

/-! ## Names of copies -/

/-- A copy is made under some name in the directory that the parent of the library leads to. -/
theorem walk_parent_of_stageCopy {parent : Path} (hparent : library.parent? = some parent)
    (hstaged : stageCopy fs library content = .ok (copied, after))
    (h : fs.locate copied = .ok loc) :
    ∃ above name, fs.walk (fs.startOf parent) parent.steps = .ok above ∧ loc = above ++ [name] := by
  obtain ⟨-, found, letters, hletters, hfound, rfl⟩ :=
    LoadedUnit.exists_createFile_of_copyBeside hstaged
  rw [hparent, Option.getD_some] at hfound
  obtain ⟨above, hwalk, -, hloc⟩ :=
    locate_join_eq_ok (LoadedUnit.isPlain_copyName (by decide) hletters) h
  exact ⟨above, _, walk_of_directoryFor hfound hwalk, hloc⟩

/-! ## In the build directory -/

/-- Where a plain name in a directory leads is in that directory. -/
theorem directlyIn_of_locate_join (hne : directory.chars ≠ [])
    (hname : Path.IsPlain name) (h : fs.locate (directory.join ⟨name⟩) = .ok loc) :
    DirectlyIn fs directory loc := by
  obtain ⟨above, hwalk, -, hloc⟩ := locate_join_eq_ok hname h
  refine ⟨above, name, locate_eq_ok_iff.mpr ⟨?_, hwalk⟩, hloc⟩
  -- A path that begins a path which can name something can name something, too.
  obtain ⟨hnul, -, hshort⟩ := checkPath_eq_ok_iff.mp (locate_eq_ok_iff.mp h).1
  rw [Path.hasNul_join directory hname.noSlash, Path.hasNul_join_empty, Bool.or_eq_false_iff]
    at hnul
  have hbegins := Path.byteSize_le (Path.directory_begins_join directory hname.noSlash)
  exact checkPath_eq_ok_iff.mpr
    ⟨hnul.1, hne, hbegins.trans hshort⟩

/-- What the compiler leaves keeps every directory. -/
theorem changedWithin_compiled (hwritten : s.build.Written s.draft.render w.files written)
    (hcompiled : s.build.Compiled s.build.unitSource w.environment w.compiler written program
      compiled)
    (hexit : w.compiler.exit = .exited 0) :
    ChangedWithin w.files compiled {loc | Touches s w loc} := by
  obtain ⟨result, acts, hexecutes⟩ :=
    exists_executes compiled (s.build.library s.build.unitSource)
  exact RunEnds.endsWith (.executed hwritten hcompiled hexit hexecutes) |>.changedWithin

/-- Where the copy of the library is made is the build directory. -/
theorem directlyIn_of_stageCopy (hne : s.build.directory.chars ≠ [])
    (hwritten : s.build.Written s.draft.render w.files written)
    (hcompiled : s.build.Compiled s.build.unitSource w.environment w.compiler written program
      compiled)
    (hexit : w.compiler.exit = .exited 0)
    (hstaged : stageCopy compiled (s.build.library s.build.unitSource) content =
      .ok (copied, after))
    (h : compiled.locate copied = .ok loc) : DirectlyIn w.files s.build.directory loc := by
  have hchanged := changedWithin_compiled hwritten hcompiled hexit
  -- The source is in the build directory, and the directories are still there.
  obtain ⟨place, hsource⟩ := write_eq_ok hwritten.source
  obtain ⟨above, -, hdirectory, -⟩ :=
    directlyIn_of_locate_join hne isPlain_sourceFile hsource.locate_eq
  have hlocate := locate_eq_ok_of_directories hchanged.here hchanged.directory hdirectory
  obtain ⟨-, hwalk⟩ := locate_eq_ok_iff.mp hlocate
  -- The library is beside the source, and the copy beside the library.
  obtain ⟨beside, dots, hlibrary, hdots, hsteps, hbeside⟩ := library_unitSource s.build
  have hwalk₁ := walk_of_dots hdots hsteps hbeside hwalk
  obtain ⟨parent, dots', hparent, hdots', hsteps', hparentAbsolute⟩ :=
    Path.parent?_join beside isPlain_runnerLibrary
  have hwalk₂ := walk_of_dots hdots' hsteps' hparentAbsolute hwalk₁
  rw [← hlibrary] at hparent
  obtain ⟨other, name, hother, hloc⟩ := walk_parent_of_stageCopy hparent hstaged h
  obtain rfl := Except.ok.inj (hwalk₂.symm.trans hother)
  exact ⟨above, name, hdirectory, hloc⟩

/-- Every file that a run writes itself lies directly in the build directory. -/
theorem WritesTo.directlyIn (h : WritesTo s w loc)
    (hne : s.build.directory.chars ≠ []) : DirectlyIn w.files s.build.directory loc := by
  cases h with
  | source h => exact directlyIn_of_locate_join hne isPlain_sourceFile h
  | log h => exact directlyIn_of_locate_join hne isPlain_logFile h
  | copy hwritten hcompiled hexit hstaged h =>
    exact directlyIn_of_stageCopy hne hwritten hcompiled hexit hstaged h

/-- What a run leaves changed is what it wrote itself, or the artifact of its compiler. -/
theorem changedWithin_run (s : Interpreter) (w : World) :
    ChangedWithin w.files (s.run w).2.2.files {loc | WritesTo s w loc ∨ ArtifactAt s w loc} := by
  obtain ⟨fs, acts, hends, hworld⟩ := exists_runEnds s w
  rw [hworld.files]
  refine hends.endsWith.changedWithin.mono fun loc htouches => ?_
  cases htouches with
  | source h => exact .inl (.source h)
  | log h => exact .inl (.log h)
  | artifact h => exact .inr h

end

end FragmentRunner.Run
