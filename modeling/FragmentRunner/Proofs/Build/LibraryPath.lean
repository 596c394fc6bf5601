import FragmentRunner.LoadedUnit
import FragmentRunner.Proofs.Build.Library
import FragmentRunner.Proofs.FileSystem.Nested

/-!
# Three ways to the library

The path of a library is computed three times: by `compile`, from the parent and the stem of the
source; by the compiler, from its arguments; and by the loader, from the build directory and the
name of the unit.

* `artifactPath?_eq_library`: the compiler computes the path that `compile` reports.
* `locate_library_iff` says where that path leads, `locate_libraryPath_iff` where the loader's does.
* `library_paths_agree`: the three paths lead to one file beside the source. The loader's path is
  spelled with the whole build directory and may be too long for the system when that which
  `compile` reports is not; then it leads nowhere.
-/

namespace FragmentRunner.BuildDirectory

open FileSystem

/-! ## The path that the compiler computes -/

/-- The name under which a source is compiled holds no dash. -/
theorem noDash_crateName (source : Path) : '-' ∉ (crateName source).toList := by
  rw [crateName]
  split
  · simp only [String.toList_ofList, List.mem_map, not_exists, not_and]
    intro c hc hdash
    split_ifs at hdash with hreplaced
    · exact absurd hdash (by decide)
    · exact hreplaced hdash
  · decide

/-- The compiler puts its library where `compile` reports it, whatever the further arguments are:
the first `--out-dir` and the first `--crate-name` are those that it was started with. -/
theorem artifactPath?_eq_library {build : BuildDirectory} (source program : Path)
    (hedition : build.toolchain.edition ≠ "--out-dir") :
    artifactPath? (build.commandLine source program) = some (build.library source) := by
  -- None of the values in front of the directory is the flag for it.
  have hname : crateName source ≠ "--out-dir" := by
    intro heq
    apply noDash_crateName source
    rw [heq]
    decide
  have hformat : build.toolchain.errorFormat.name ≠ "--out-dir" := by
    cases build.toolchain.errorFormat <;> decide
  have hlevel : "opt-level=" ++ build.toolchain.optimisation ≠ "--out-dir" := by
    intro heq
    have hhead := congrArg (fun s => s.toList.head?) heq
    simp at hhead
  have hdirectory : valueAfter? "--out-dir" (build.commandLine source program).tail =
      some (build.libraryDirectory source).spelling := by
    rw [commandLine_eq, List.tail_cons, valueAfter?_of_ne (by decide), valueAfter?_of_ne (by decide),
      valueAfter?_of_ne (by decide), valueAfter?_of_ne hname, valueAfter?_of_ne (by decide),
      valueAfter?_of_ne hedition, valueAfter?_of_ne (by decide), valueAfter?_of_ne hformat,
      valueAfter?_of_ne (by decide), valueAfter?_of_ne hlevel, valueAfter?_of_ne (by decide),
      valueAfter?_of_ne (by decide), valueAfter?_self]
  have hcrate : valueAfter? "--crate-name" (build.commandLine source program).tail =
      some (crateName source) := by
    rw [commandLine_eq, List.tail_cons, valueAfter?_of_ne (by decide), valueAfter?_of_ne (by decide),
      valueAfter?_self]
  rw [artifactPath?, hdirectory, hcrate, library]
  simp [Path.ofString, Path.spelling]

/-- What a compile reports is where its compiler was told to put the library. -/
theorem library_of_compile {build : BuildDirectory} {source : Path} {w : World} {made : Build}
    (hedition : build.toolchain.edition ≠ "--out-dir")
    (h : (build.compile source w).1 = .ok made) :
    made.library = build.library source ∧ ∃ program,
      build.Compiled source w.environment w.compiler w.files program
        (build.compile source w).2.files ∧
      artifactPath? (build.commandLine source program) = some made.library := by
  obtain ⟨program, fs, hcompiled⟩ := exists_compiled h
  obtain ⟨hresult, hworld⟩ := hcompiled.compile
  obtain rfl := Except.ok.inj (h.symm.trans hresult)
  refine ⟨rfl, program, ?_, artifactPath?_eq_library source program hedition⟩
  rw [hworld.files]
  exact hcompiled

/-! ## Sources that were written -/

section Source

variable {build : BuildDirectory} {relative source : Path} {content : String} {w after : World}

/-- Making directories for a source keeps the file system nested. -/
theorem nested_prepared (build : BuildDirectory) (relative : Path) {fs : FileSystem}
    (h : fs.Nested) : (build.prepared relative fs).1.Nested := by
  rw [prepared]
  cases relative.parent? with
  | none => exact h
  | some parent =>
    simp only
    split_ifs
    · exact h
    · exact h.createDirectories _

/-- A source that was written is in the build directory, and the last step was to write it. -/
theorem exists_write_of_writeSource (hnested : w.files.Nested)
    (h : build.writeSource relative content w = (.ok source, after)) :
    source = build.directory.join relative ∧ ∃ prepared : FileSystem, prepared.Nested ∧
      prepared.write source (.text content) = .ok after.files := by
  have hends := sourceEnds build relative content w
  rw [h] at hends
  cases hends with
  | written hcheck hprepared hwrite =>
    have hfiles := nested_prepared build relative hnested
    rw [hprepared] at hfiles
    exact ⟨rfl, _, hfiles, hwrite⟩

end Source

/-! ## The path that the loader computes -/

section Loader

variable {build : BuildDirectory} {directory : Path} {name : Name} {fs : FileSystem}

/-- The loader looks for a library under its name in the build directory. -/
theorem libraryPath_eq (directory : Path) (name : String) :
    LoadedUnit.libraryPath directory name = directory.join ⟨libraryFile name⟩ := by
  rw [LoadedUnit.libraryPath, libraryName_eq]

/-- A path to a plain name is not empty. -/
theorem chars_join_ne_nil (directory : Path) (h : Path.IsPlain name) :
    (directory.join ⟨name⟩).chars ≠ [] := by
  simp [Path.chars_join directory h.noSlash, h.ne_nil]

/-- A path to a plain name is accepted if it holds no NUL and is not too long. -/
theorem checkPath_join_iff (h : Path.IsPlain name) : checkPath (directory.join ⟨name⟩) = .ok () ↔
    (directory.join .empty).hasNul = false ∧ (⟨name⟩ : Path).hasNul = false ∧
      (directory.join ⟨name⟩).byteSize ≤ pathLimit := by
  rw [checkPath_eq_ok_iff, Path.hasNul_join directory h.noSlash, Bool.or_eq_false_iff, and_assoc,
    and_iff_right (chars_join_ne_nil directory h)]

/-- Without NUL, a path that is too long is refused for its length. -/
theorem locate_join_of_tooLong (h : Path.IsPlain name)
    (hdirectory : (directory.join .empty).hasNul = false) (hname : (⟨name⟩ : Path).hasNul = false)
    (hlong : pathLimit < (directory.join ⟨name⟩).byteSize) :
    fs.locate (directory.join ⟨name⟩) = .error .nameTooLong := by
  refine locate_of_tooLong ?_ (chars_join_ne_nil directory h) hlong
  rw [Path.hasNul_join directory h.noSlash, hdirectory, hname, Bool.or_false]

/-- The path that `compile` reports for the unit is no longer than the loader's: it is spelled with
the parent of the source, which is where the build directory begins. -/
theorem checkPath_library_unitSource (hsource : checkPath build.unitSource = .ok ())
    (hshort : (LoadedUnit.libraryPath build.directory unitName).byteSize ≤ pathLimit) :
    checkPath (build.library build.unitSource) = .ok () := by
  obtain ⟨parent, -, hparent, -⟩ := Path.parent?_join build.directory isPlain_sourceFile
  have hlibrary : build.library build.unitSource = parent.join ⟨libraryFile unitName⟩ := by
    rw [← crateName_unitSource build]
    exact library_of_parent build hparent
  have hplain : Path.IsPlain (libraryFile unitName) := by decide
  obtain ⟨hnul, -, -⟩ := (checkPath_join_iff isPlain_sourceFile).mp hsource
  obtain ⟨rest, hrest⟩ := Path.parent_begins_directory isPlain_sourceFile hparent
  rw [hlibrary, checkPath_join_iff hplain]
  refine ⟨?_, by decide, ?_⟩
  · rw [Path.hasNul, ← hrest, List.any_append] at hnul
    exact (Bool.or_eq_false_iff.mp hnul).1
  · have hle : (parent.join .empty).byteSize ≤ (build.directory.join .empty).byteSize :=
      Path.byteSize_le ⟨rest, hrest⟩
    rw [libraryPath_eq, Path.byteSize_join _ hplain.noSlash] at hshort
    rw [Path.byteSize_join _ hplain.noSlash]
    omega

/-- For the unit, the loader's path leads to the library beside the source, unless it is too long. -/
theorem locate_libraryPath {above : Location}
    (hlocate : fs.locate build.unitSource = .ok (above ++ [name])) :
    let loaded := LoadedUnit.libraryPath build.directory unitName
    (loaded.byteSize ≤ pathLimit →
      fs.locate (build.library build.unitSource) = .ok (above ++ ["librunner.so".toList]) ∧
      fs.locate loaded = .ok (above ++ ["librunner.so".toList])) ∧
    (pathLimit < loaded.byteSize → fs.locate loaded = .error .nameTooLong) := by
  intro loaded
  have hplain : Path.IsPlain (libraryFile unitName) := by decide
  have hfile : libraryFile unitName = "librunner.so".toList := by decide
  have hloaded : loaded = build.directory.join ⟨libraryFile unitName⟩ := libraryPath_eq ..
  obtain ⟨hcheck, -⟩ := locate_eq_ok_iff.mp hlocate
  obtain ⟨hnul, -, -⟩ := (checkPath_join_iff isPlain_sourceFile).mp hcheck
  constructor
  · intro hshort
    obtain ⟨other, hwalk, hpass, hloc⟩ := locate_join_eq_ok isPlain_sourceFile hlocate
    obtain ⟨rfl, hname⟩ := List.append_inj' hloc rfl
    obtain rfl := List.singleton_inj.mp hname
    refine ⟨(locate_library_iff isPlain_sourceFile hlocate).mpr ⟨?_, ?_, ?_⟩, ?_⟩
    · exact checkPath_library_unitSource hcheck hshort
    · exact (congrArg (fun name => isTooLong (libraryFile name)) (crateName_unitSource build)).trans
        (by decide)
    · exact (congrArg (fun name => above ++ [libraryFile name]) (crateName_unitSource build)).symm
    · rw [← hfile, hloaded]
      refine (locate_join_iff_of_walk hplain hwalk hpass).mpr ⟨?_, by decide, rfl⟩
      exact (checkPath_join_iff hplain).mpr ⟨hnul, by decide, hloaded ▸ hshort⟩
  · intro hlong
    rw [hloaded] at hlong ⊢
    exact locate_join_of_tooLong hplain hnul (by decide) hlong

end Loader

/-! ## Agreement -/

/-- For a source that was written into the build directory, however that is spelled and wherever in
it the source is: a compile reports the path under which its compiler puts the library, whatever
the further arguments are. This path leads to the directory of the source, unless it or the name of
the library is too long. The unit's library is also found by the loader, unless the loader's path is
too long, which it can be although the other one is not. -/
theorem library_paths_agree {build : BuildDirectory} {relative source : Path} {content : String}
    {w after : World} (hedition : build.toolchain.edition ≠ "--out-dir")
    (hnested : w.files.Nested)
    (hsource : build.writeSource relative content w = (.ok source, after)) :
    (∀ v made, (build.compile source v).1 = .ok made →
      made.library = build.library source ∧ ∃ program,
        build.Compiled source v.environment v.compiler v.files program
          (build.compile source v).2.files ∧
        artifactPath? (build.commandLine source program) = some made.library) ∧
    ∃ above name, after.files.locate source = .ok (above ++ [name]) ∧
      (∀ place, after.files.locate (build.library source) = .ok place ↔
        checkPath (build.library source) = .ok () ∧
          isTooLong (libraryFile (crateName source)) = false ∧
          place = above ++ [libraryFile (crateName source)]) ∧
      (relative = .ofString sourceFile →
        let loaded := LoadedUnit.libraryPath build.directory unitName
        (loaded.byteSize ≤ pathLimit →
          after.files.locate (build.library source) = .ok (above ++ ["librunner.so".toList]) ∧
          after.files.locate loaded = .ok (above ++ ["librunner.so".toList])) ∧
        (pathLimit < loaded.byteSize → after.files.locate loaded = .error .nameTooLong)) := by
  obtain ⟨hpath, prepared, hprepared, hwrite⟩ := exists_write_of_writeSource hnested hsource
  obtain ⟨directory, name, hname, hjoin⟩ := hprepared.exists_join_of_write hwrite
  obtain ⟨loc, hwritten⟩ := write_eq_ok hwrite
  have hlocate := hwritten.toChangedAt.locate_eq_ok hwritten.locate_eq
  rw [hjoin] at hlocate
  obtain ⟨above, -, -, rfl⟩ := locate_join_eq_ok hname hlocate
  refine ⟨fun v made hmade => library_of_compile hedition hmade, above, name, ?_, ?_, ?_⟩
  · rw [hjoin, hlocate]
  · intro place
    rw [hjoin]
    exact locate_library_iff hname hlocate
  · rintro rfl
    obtain rfl : source = build.unitSource := hpath
    rw [← hjoin] at hlocate
    exact locate_libraryPath hlocate

/-- An empty directory to build in, a compiler, and what that does. -/
def emptyOutput : World where
  files := {
    entries := [
      (["out".toList], .directory .full),
      (["bin".toList, "rustc".toList], .file (.bytes []) true),
      (["bin".toList], .directory .full)]
    here := [] }
  environment := ⟨[]⟩
  plans _ := ⟨[], .file (.image ⟨[(entrySymbol, 0)]⟩), .exited 0⟩
  history := []

/-- A build in `directory` with the compiler of `emptyOutput`. -/
def buildIn (directory : Path) : BuildDirectory where
  directory := directory
  toolchain := { compiler := some (.ofString "bin/rustc") }

/-- The library of a source in a directory that is made for it leads to the directory of the
source. -/
theorem library_beside_nested_source :
    let source := Path.ofString "out/./a//b-c.d.rs"
    let files := ((buildIn (.ofString "out/./")).writeSource (.ofString "a//b-c.d.rs") ""
      emptyOutput).2.files
    (buildIn (.ofString "out/./")).library source = .ofString "out/./a/libb_c.d.so" ∧
      ∃ above name, files.locate source = .ok (above ++ [name]) ∧
        files.locate (.ofString "out/./a/libb_c.d.so") = .ok (above ++ ["libb_c.d.so".toList]) := by
  have hlibrary : (buildIn (.ofString "out/./")).library (.ofString "out/./a//b-c.d.rs") =
      .ofString "out/./a/libb_c.d.so" := by decide
  have hnested : emptyOutput.files.Nested := nested_of_entries (by decide)
  obtain ⟨-, above, name, hsource, hplace, -⟩ := library_paths_agree (by decide) hnested
    (Prod.ext (by decide +kernel) rfl :
      (buildIn (.ofString "out/./")).writeSource (.ofString "a//b-c.d.rs") "" emptyOutput =
        (.ok (.ofString "out/./a//b-c.d.rs"), _))
  refine ⟨hlibrary, above, name, hsource, ?_⟩
  rw [← hlibrary]
  exact (hplace _).mpr ⟨by decide, by decide, congrArg (above ++ [·]) (by decide)⟩

/-! ## A directory that is spelled with many dots -/

section Dotted

variable {n : Nat} {name : Name} {fs : FileSystem}

/-- The directory `out`, spelled with `n` single dots at its end. -/
def dotted : Nat → Path
  | 0 => .ofString "out"
  | n + 1 => ⟨(dotted n).chars ++ ['/', '.']⟩

/-- Each dot is a segment of its own. -/
theorem segments_dotted (n : Nat) :
    Path.segments (dotted n).chars = "out".toList :: List.replicate n ['.'] := by
  induction n with
  | zero => decide
  | succ n ih =>
    rw [dotted, Path.segments_append_slash, ih, Path.segments_of_noSlash (by decide),
      List.cons_append, List.replicate_succ']

/-- A slash and a dot are two bytes. -/
theorem byteSize_dotted (n : Nat) : (dotted n).byteSize = 2 * n + 3 := by
  induction n with
  | zero => decide
  | succ n ih =>
    rw [Path.byteSize, Path.spelling] at ih
    rw [dotted, Path.byteSize, Path.spelling, String.ofList_append, String.utf8ByteSize_append, ih]
    have hdot : (String.ofList ['/', '.']).utf8ByteSize = 2 := by decide
    omega

/-- No part of the directory is NUL. -/
theorem hasNul_dotted (n : Nat) : (dotted n).hasNul = false := by
  induction n with
  | zero => decide
  | succ n ih =>
    rw [dotted, Path.hasNul, List.any_append]
    rw [Path.hasNul] at ih
    rw [ih]
    decide

/-- The directory is spelled relative to the current one. -/
theorem exists_chars_dotted (n : Nat) : ∃ rest, (dotted n).chars = 'o' :: rest := by
  induction n with
  | zero => exact ⟨['u', 't'], by decide⟩
  | succ n ih =>
    obtain ⟨rest, hchars⟩ := ih
    exact ⟨rest ++ ['/', '.'], by rw [dotted, hchars, List.cons_append]⟩

/-- The last character of the directory is a letter or a dot. -/
theorem endsWithSlash_dotted (n : Nat) : (dotted n).endsWithSlash = false := by
  cases n with
  | zero => decide
  | succ n => simp [dotted, Path.endsWithSlash]

/-- The dots lead nowhere. -/
theorem walk_dotted (hhere : fs.here = [])
    (hnode : fs.node? ["out".toList] = some (.directory .full)) (n : Nat) :
    fs.walk (fs.startOf (dotted n)) (dotted n).steps = .ok ["out".toList] := by
  have hdots : fs.walk ["out".toList] (List.replicate n ['.']) = .ok ["out".toList] :=
    walk_dots_of_passable (fun _ => List.eq_of_mem_replicate) ⟨.full, hnode, by decide⟩
  obtain ⟨rest, hchars⟩ := exists_chars_dotted n
  have hsteps : (dotted n).steps = "out".toList :: List.replicate n ['.'] := by
    rw [Path.steps, segments_dotted, List.filter_cons_of_pos (by decide), List.filter_eq_self.mpr]
    intro segment hsegment
    rw [List.eq_of_mem_replicate hsegment]
    decide
  have hstart : fs.startOf (dotted n) = [] := by
    simp [startOf, Path.isAbsolute, hchars, hhere]
  have hroot : fs.Passable [] := ⟨.full, by simp [node?], by decide⟩
  rw [hsteps, hstart, walk_cons_of_passable hroot (by decide)]
  exact hdots

/-- A name is joined to the directory by a slash. -/
theorem join_empty_dotted (n : Nat) :
    (dotted n).join .empty = ⟨(dotted n).chars ++ ['/']⟩ := by
  obtain ⟨rest, hchars⟩ := exists_chars_dotted n
  have hempty : Path.empty.isAbsolute = false := by decide
  rw [Path.join, hempty, endsWithSlash_dotted]
  simp [hchars, Path.empty]

/-- The spelling of a file in the directory. -/
theorem chars_dotted_join (hname : '/' ∉ name) :
    ((dotted n).join ⟨name⟩).chars = (dotted n).chars ++ '/' :: name := by
  rw [Path.chars_join _ hname, join_empty_dotted, List.append_assoc, List.singleton_append]

/-- Nothing in front of a name in the directory is NUL. -/
theorem hasNul_dotted_join (n : Nat) : ((dotted n).join .empty).hasNul = false := by
  have hdotted := hasNul_dotted n
  rw [Path.hasNul] at hdotted
  rw [join_empty_dotted, Path.hasNul, List.any_append, hdotted]
  decide

/-- The length of a file's path grows with the dots. -/
theorem byteSize_dotted_join (hname : '/' ∉ name) :
    ((dotted n).join ⟨name⟩).byteSize = 2 * n + 4 + (⟨name⟩ : Path).byteSize := by
  have hdotted := byteSize_dotted n
  have hslash : (String.ofList ['/']).utf8ByteSize = 1 := by decide
  rw [Path.byteSize, Path.spelling] at hdotted
  rw [Path.byteSize_join _ hname, join_empty_dotted, Path.byteSize, Path.spelling,
    String.ofList_append, String.utf8ByteSize_append, hdotted, hslash]

/-- The parent of a file in the directory is spelled without the dots. -/
theorem parent?_dotted (hname : Path.IsPlain name) :
    ((dotted n).join ⟨name⟩).parent? = some (.ofString "out") := by
  obtain ⟨rest, hchars⟩ := exists_chars_dotted n
  have hstart : ((dotted n).join ⟨name⟩).splitStart = ([], ((dotted n).join ⟨name⟩).chars) := by
    rw [Path.splitStart, chars_dotted_join hname.noSlash, hchars]
    rfl
  have hsegments : Path.segments ((dotted n).join ⟨name⟩).splitStart.2 =
      ("out".toList :: List.replicate n ['.']) ++ [name] := by
    rw [hstart, chars_dotted_join hname.noSlash, Path.segments_append_slash, segments_dotted,
      Path.segments_of_noSlash hname.noSlash]
  -- Counted from the end, the dots come first, and the parent drops them.
  have hidle : ("out".toList :: List.replicate n ['.']).reverse.dropWhile Path.isIdle =
      ["out".toList] := by
    rw [List.reverse_cons, List.reverse_replicate,
      List.dropWhile_append_of_pos fun segment hsegment => by
        rw [List.eq_of_mem_replicate hsegment]; decide]
    decide
  rw [Path.parent?, Path.reversedBody_of_segments hname hsegments, hstart]
  simp only [hidle]
  decide

/-- A file in the directory can be written if its path is not too long. -/
theorem locateFile_dotted (hhere : fs.here = [])
    (hnode : fs.node? ["out".toList] = some (.directory .full)) (hname : Path.IsPlain name)
    (hnul : (⟨name⟩ : Path).hasNul = false) (hlong : isTooLong name = false)
    (hshort : 2 * n + 4 + (⟨name⟩ : Path).byteSize ≤ pathLimit) :
    fs.locateFile ((dotted n).join ⟨name⟩) = .ok ["out".toList, name] := by
  have hcheck : checkPath ((dotted n).join ⟨name⟩) = .ok () := by
    refine (checkPath_join_iff hname).mpr ⟨hasNul_dotted_join n, hnul, ?_⟩
    rw [byteSize_dotted_join hname.noSlash]
    exact hshort
  have hwalk : fs.walk (fs.startOf (dotted n)) (dotted n).steps = .ok ["out".toList] :=
    walk_dotted hhere hnode n
  have hlocate := (locate_join_iff_of_walk hname hwalk ⟨.full, hnode, by decide⟩).mpr
    ⟨hcheck, hlong, rfl⟩
  exact locateFile_of_locate hlocate (Path.endsWithSlash_join _ hname)

/-- The directory is `out`. -/
theorem checkDirectory_dotted (hshort : 2 * n + 3 ≤ pathLimit) :
    checkDirectory emptyOutput.files (dotted n) = .ok () := by
  obtain ⟨rest, hchars⟩ := exists_chars_dotted n
  have hcheck : checkPath (dotted n) = .ok () :=
    checkPath_eq_ok_iff.mpr ⟨hasNul_dotted n, by simp [hchars], by rwa [byteSize_dotted]⟩
  have hlocate : emptyOutput.files.locate (dotted n) = .ok ["out".toList] :=
    locate_eq_ok_iff.mpr ⟨hcheck, walk_dotted rfl (by decide) n⟩
  have hnode : emptyOutput.files.node? ["out".toList] = some (.directory .full) := by decide
  have hstatus : emptyOutput.files.status (dotted n) = .ok (.directory .full) := by
    rw [status, hlocate]
    simp only [bind, Except.bind, hnode]
  rw [checkDirectory, hstatus]

/-- No part of the command line holds NUL. -/
theorem checkStart_dotted (hfind : (findProgram ⟨[]⟩ fs (.ofString "bin/rustc")).isOk = true) :
    let build := buildIn (dotted n)
    checkStart ⟨[]⟩ fs (.ofString "bin/rustc")
      (build.commandLine build.unitSource (.ofString "bin/rustc")) = .ok () := by
  intro build
  have hparent : build.unitSource.parent? = some (.ofString "out") :=
    parent?_dotted isPlain_sourceFile
  have hcommand : build.commandLine build.unitSource (.ofString "bin/rustc") =
      ["bin/rustc", "--crate-type", "cdylib", "--crate-name", "runner", "--edition", "2021",
        "--error-format", "short", "-C", "opt-level=0", "-A", "warnings", "--out-dir", "out"] ++
      [build.unitSource.spelling] := by
    rw [commandLine_eq, crateName_unitSource, libraryDirectory, hparent]
    rfl
  have hsource : build.unitSource.hasNul = false := by
    have hname : (⟨"runner.rs".toList⟩ : Path).hasNul = false := by decide
    have hjoin : build.unitSource.hasNul = ((dotted n).join .empty).hasNul :=
      (Path.hasNul_join _ isPlain_sourceFile.noSlash).trans (by rw [hname, Bool.or_false]; rfl)
    rw [hjoin, hasNul_dotted_join]
  have hnul : ((build.commandLine build.unitSource (.ofString "bin/rustc")).any fun argument =>
      (Path.ofString argument).hasNul) = false := by
    have hspelled : Path.ofString build.unitSource.spelling = build.unitSource := by
      simp [Path.ofString, Path.spelling]
    rw [hcommand, List.any_append, Bool.or_eq_false_iff]
    refine ⟨by decide, ?_⟩
    rw [List.any_cons, hspelled, hsource]
    rfl
  rw [checkStart, hnul]
  cases hfound : findProgram ⟨[]⟩ fs (.ofString "bin/rustc") with
  | error e => simp [hfound, Except.isOk, Except.toBool] at hfind
  | ok program => rfl

/-- If the path of its source is short enough, a unit is compiled into a library in `out`. -/
theorem compile_dotted (hshort : 2 * n + 13 ≤ pathLimit) :
    let build := buildIn (dotted n)
    let written := build.writeSource (.ofString sourceFile) "" emptyOutput
    let compiled := build.compile build.unitSource written.2
    written.1 = .ok build.unitSource ∧ ∃ made, compiled.1 = .ok made ∧
      compiled.2.files.isFile made.library = true := by
  intro build written compiled
  -- The source and the log have names of nine characters, and both are written to `out`.
  have hsource : ∀ fs : FileSystem, fs.here = [] →
      fs.node? ["out".toList] = some (.directory .full) →
      fs.locateFile build.unitSource = .ok ["out".toList, "runner.rs".toList] :=
    fun fs hhere hnode => locateFile_dotted hhere hnode isPlain_sourceFile (by decide) (by decide)
      hshort
  have hlog : ∀ fs : FileSystem, fs.here = [] →
      fs.node? ["out".toList] = some (.directory .full) →
      fs.locateFile build.log = .ok ["out".toList, "error.log".toList] :=
    fun fs hhere hnode => locateFile_dotted hhere hnode isPlain_logFile (by decide) (by decide)
      hshort
  let files := emptyOutput.files.put ["out".toList, "runner.rs".toList] (.file (.text "") false)
  let opened := files.put ["out".toList, "error.log".toList] (.file (.bytes []) false)
  have hwritten : build.Written "" emptyOutput.files files := by
    refine ⟨checkDirectory_dotted (by omega), ?_⟩
    rw [FileSystem.write, hsource _ rfl (by decide)]
    rfl
  have hopened : build.LogOpened ⟨[]⟩ files (.ofString "bin/rustc") opened := by
    refine ⟨rfl, ?_⟩
    rw [FileSystem.write, hlog _ rfl (by decide)]
    rfl
  let logged := opened.put ["out".toList, "error.log".toList] (.file (.bytes []) false)
  have hdiagnosed : opened.write build.log (.bytes []) = .ok logged := by
    rw [FileSystem.write, hlog _ rfl (by decide)]
    rfl
  have hcompiled : build.Compiled build.unitSource emptyOutput.environment emptyOutput.compiler
      files (.ofString "bin/rustc") _ :=
    ⟨⟨hopened, checkStart_dotted (by decide), hdiagnosed⟩⟩
  obtain ⟨hresult, hworld⟩ := hwritten.writeSource (w := emptyOutput)
  rw [← hworld.environment, ← hworld.compiler, ← hworld.files] at hcompiled
  obtain ⟨hmade, hafter⟩ := hcompiled.compile
  refine ⟨hresult, _, hmade, ?_⟩
  -- The library is where the compiler put it, under a path without the dots.
  have hlibrary : build.library build.unitSource = .ofString "out/librunner.so" := by
    have hparent : build.unitSource.parent? = some (.ofString "out") :=
      parent?_dotted isPlain_sourceFile
    rw [library_of_parent build hparent, crateName_unitSource]
    decide
  have hartifact : artifactPath? (build.commandLine build.unitSource (.ofString "bin/rustc")) =
      some (.ofString "out/librunner.so") := by
    rw [← hlibrary]
    exact artifactPath?_eq_library _ _ (by change "2021" ≠ "--out-dir"; decide)
  have hleft : (emptyOutput.compiler.artifact.leave
      (build.commandLine build.unitSource (.ofString "bin/rustc")) logged).isFile
        (.ofString "out/librunner.so") = true := by
    unfold Artifact.leave
    rw [hartifact]
    decide
  rw [hworld.compiler] at hafter
  rw [hafter.files, hlibrary]
  exact hleft

/-- If its path is too long, the loader finds no library. -/
theorem isFile_libraryPath_dotted (hlong : pathLimit < 2 * n + 16) (fs : FileSystem) :
    fs.isFile (LoadedUnit.libraryPath (buildIn (dotted n)).directory unitName) = false := by
  have hplain : Path.IsPlain (libraryFile unitName) := by decide
  have hname : (⟨libraryFile unitName⟩ : Path).byteSize = 12 := by decide
  have hsize : pathLimit < ((dotted n).join ⟨libraryFile unitName⟩).byteSize := by
    rw [byteSize_dotted_join hplain.noSlash, hname]
    exact hlong
  have hlocate : fs.locate ((dotted n).join ⟨libraryFile unitName⟩) = .error .nameTooLong :=
    locate_join_of_tooLong hplain (hasNul_dotted_join n) (by decide) hsize
  rw [libraryPath_eq, isFile, status, buildIn, hlocate]
  rfl

/-- A directory whose dots leave room for the source, and not for the library, hides the library from
the loader. -/
theorem loader_path_dotted (hshort : 2 * n + 13 ≤ pathLimit) (hlong : pathLimit < 2 * n + 16) :
    let build := buildIn (dotted n)
    let written := build.writeSource (.ofString sourceFile) "" emptyOutput
    let compiled := build.compile build.unitSource written.2
    written.1 = .ok build.unitSource ∧ ∃ made, compiled.1 = .ok made ∧
      compiled.2.files.isFile made.library = true ∧
      compiled.2.files.isFile (LoadedUnit.libraryPath build.directory unitName) = false := by
  intro build written compiled
  obtain ⟨hwritten, made, hmade, hlibrary⟩ := compile_dotted hshort
  exact ⟨hwritten, made, hmade, hlibrary, isFile_libraryPath_dotted hlong _⟩

end Dotted

/-- With 2041 dots at the end of the directory, the path of the source just fits. The library that
the compile reports is there, but not under the loader's path, which is three bytes too long. -/
theorem loader_path_too_long :
    let build := buildIn (dotted 2041)
    let written := build.writeSource (.ofString sourceFile) "" emptyOutput
    let compiled := build.compile build.unitSource written.2
    written.1 = .ok build.unitSource ∧ ∃ made, compiled.1 = .ok made ∧
      compiled.2.files.isFile made.library = true ∧
      compiled.2.files.isFile (LoadedUnit.libraryPath build.directory unitName) = false :=
  loader_path_dotted (by decide) (by decide)

end FragmentRunner.BuildDirectory
