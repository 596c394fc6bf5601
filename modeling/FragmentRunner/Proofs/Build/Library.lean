import FragmentRunner.Proofs.Build.Stages

/-!
# The library beside the source

The library of a unit is looked for beside its source under a fixed name, whether or not this
compile put one there. `Produces` says that it did. What the library was before is left alone by
everything else that a build writes, so that without an artifact of its own a build ends with the
library that it began with.
-/

namespace FragmentRunner

open FileSystem

/-- The compiler puts `content` in the file that `library` names. -/
structure Produces (artifact : Artifact) (command : List String) (fs : FileSystem) (library : Path)
    (content : Content) : Prop where
  artifact_eq : artifact = .file content
  written : ∃ path loc after, artifactPath? command = some path ∧
    fs.write path content = .ok after ∧ fs.locate path = .ok loc ∧ fs.locate library = .ok loc

section Produces

variable {artifact : Artifact} {command : List String} {fs : FileSystem} {library : Path}
  {content : Content} {loc : Location}

/-- Unless the compiler puts a file there, there is a file where the library is looked for if and
only if there was one. -/
theorem isFile_leave (hlibrary : fs.locate library = .ok loc)
    (hnot : ∀ content, ¬ Produces artifact command fs library content) :
    (artifact.leave command fs).isFile library = fs.isFile library := by
  rcases Artifact.leave_cases artifact command fs with
    hnothing | ⟨path, content, place, hpath, hartifact, hwrite, hwritten⟩ |
      ⟨path, place, hpath, hartifact, hlocate, hvacant, hchanged, hnode⟩
  · rw [hnothing]
  · refine hwritten.toChangedAt.isFile_eq hlibrary ?_
    rintro rfl
    exact hnot content ⟨hartifact, path, loc, _, hpath, hwrite, hwritten.locate_eq, hlibrary⟩
  · -- Where a directory is created there was nothing before, and a directory is no library.
    by_cases hplace : loc = place
    · subst hplace
      have hlibrary' := hchanged.locate_eq_ok hlibrary
      simp [isFile, status, hlibrary, hlibrary', hvacant, hnode, bind, Except.bind]
    · exact hchanged.isFile_eq hlibrary hplace

/-- What the compiler puts there is what is found there. -/
theorem Produces.content_leave (h : Produces artifact command fs library content)
    (hslash : library.endsWithSlash = false) :
    (artifact.leave command fs).content library = .ok content := by
  obtain ⟨rfl, path, loc, after, hpath, hwrite, hlocate, hlibrary⟩ := h
  obtain ⟨place, hwritten⟩ := write_eq_ok hwrite
  obtain rfl : loc = place := Except.ok.inj (hlocate.symm.trans hwritten.locate_eq)
  obtain ⟨executable, hfile⟩ := hwritten.file
  have hleave : (Artifact.file content).leave command fs = after := by
    simp [Artifact.leave, hpath, hwrite, Except.toOption]
  rw [hleave]
  simp [FileSystem.content, status, hwritten.toChangedAt.locate_eq_ok hlibrary, hfile, hslash,
    bind, Except.bind]

end Produces

namespace BuildDirectory

/-- The library of the unit has a plain name. -/
theorem isPlain_runnerLibrary : Path.IsPlain "librunner.so".toList := by decide

/-- The library of a source is beside it. -/
theorem library_of_parent (build : BuildDirectory) {source parent : Path}
    (hparent : source.parent? = some parent) :
    build.library source = parent.join ⟨libraryFile (crateName source)⟩ := by
  rw [library, libraryDirectory, hparent, libraryName_eq]
  rfl

/-- The library of a source has a plain name. -/
theorem isPlain_library (source : Path) : Path.IsPlain (libraryFile (crateName source)) :=
  isPlain_libraryFile (noSlash_crateName source)

/-- The unit is compiled under the name by which it is loaded. -/
theorem crateName_unitSource (build : BuildDirectory) : crateName build.unitSource = unitName := by
  have hfile := Path.fileName?_join build.directory isPlain_sourceFile
  have hstem : build.unitSource.fileStem? = some "runner".toList := by
    rw [Path.fileStem?, unitSource]
    exact (congrArg _ hfile).trans (by decide)
  rw [crateName, hstem]
  decide

/-- The library of the unit is in the directory of its source, spelled as the parent of the
source. -/
theorem library_unitSource (build : BuildDirectory) :
    ∃ parent dots, build.library build.unitSource = Path.join parent ⟨"librunner.so".toList⟩ ∧
      (∀ step ∈ dots, step = ['.']) ∧ build.directory.steps = parent.steps ++ dots ∧
      parent.isAbsolute = build.directory.isAbsolute := by
  obtain ⟨parent, dots, hparent, hrest⟩ := Path.parent?_join build.directory isPlain_sourceFile
  have hsource : build.unitSource.parent? = some parent := hparent
  refine ⟨parent, dots, ?_, hrest⟩
  rw [library_of_parent build hsource, crateName_unitSource]
  exact congrArg (Path.join parent) (by decide)

section Locate

variable {build : BuildDirectory} {unit : String} {env : Environment} {plan : CompilerPlan}
  {before written fs : FileSystem} {program : Path}

/-- The path of a library leads to the directory that the source is in, unless it or the name of
the library is too long. -/
theorem locate_library_iff {directory : Path} {name : Name} {above place : Location}
    (hname : Path.IsPlain name)
    (hlocate : fs.locate (directory.join ⟨name⟩) = .ok (above ++ [name])) :
    let source := directory.join ⟨name⟩
    fs.locate (build.library source) = .ok place ↔ checkPath (build.library source) = .ok () ∧
      isTooLong (libraryFile (crateName source)) = false ∧
      place = above ++ [libraryFile (crateName source)] := by
  intro source
  obtain ⟨parent, other, hparent, -, hwalk, hpass, hloc⟩ :=
    exists_parent_of_locate_join hname hlocate
  obtain rfl : above = other := List.append_cancel_right hloc
  rw [library_of_parent build hparent]
  exact locate_join_iff_of_walk (isPlain_library source) hwalk hpass

/-- Where the library of a unit is, if its path can name something at all: beside the source. -/
theorem Written.locate_library (h : build.Written unit before written)
    (hpath : checkPath (build.library build.unitSource) = .ok ()) :
    ∃ loc, before.locate (build.library build.unitSource) = .ok loc ∧
      loc.getLast? = some "librunner.so".toList := by
  obtain ⟨place, hwritten, -⟩ := write_join_eq_ok isPlain_sourceFile h.source
  obtain ⟨above, -, -, rfl⟩ := locate_join_eq_ok isPlain_sourceFile hwritten.locate_eq
  have hlibrary : libraryFile (crateName build.unitSource) = "librunner.so".toList := by
    rw [crateName_unitSource]
    decide
  refine ⟨above ++ ["librunner.so".toList], ?_, List.getLast?_concat⟩
  refine (locate_library_iff isPlain_sourceFile hwritten.locate_eq).mpr ⟨hpath, ?_, ?_⟩
  · exact (congrArg isTooLong hlibrary).trans (by decide)
  · exact congrArg (above ++ [·]) hlibrary.symm

/-- A build that is given no library ends with a library if and only if it began with one. -/
theorem Launched.isFile_library (hwritten : build.Written unit before written)
    (h : build.Launched build.unitSource env plan written program fs)
    (hnot : ∀ content, ¬ Produces plan.artifact (build.commandLine build.unitSource program) fs
      (build.library build.unitSource) content) :
    (plan.artifact.leave (build.commandLine build.unitSource program) fs).isFile
      (build.library build.unitSource) = before.isFile (build.library build.unitSource) := by
  obtain ⟨hopened, -, hdiagnosed⟩ := h
  cases hpath : checkPath (build.library build.unitSource) with
  | error e => rw [isFile_of_checkPath_error hpath, isFile_of_checkPath_error hpath]
  | ok u =>
    -- The source and the log, twice, are written under other names than the library's.
    obtain ⟨loc, hlocate, hlast⟩ := hwritten.locate_library hpath
    have hsource : loc.getLast? ≠ some "runner.rs".toList := by rw [hlast]; decide
    have hlog : loc.getLast? ≠ some "error.log".toList := by rw [hlast]; decide
    obtain ⟨hlocate₁, hfile₁⟩ :=
      isFile_of_write_join isPlain_sourceFile hwritten.source hlocate hsource
    obtain ⟨hlocate₂, hfile₂⟩ := isFile_of_write_join isPlain_logFile hopened.log hlocate₁ hlog
    obtain ⟨hlocate₃, hfile₃⟩ := isFile_of_write_join isPlain_logFile hdiagnosed hlocate₂ hlog
    rw [isFile_leave hlocate₃ hnot, hfile₃, hfile₂, hfile₁]

end Locate

end BuildDirectory

end FragmentRunner
