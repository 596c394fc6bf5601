import FragmentRunner.BuildDirectory
import FragmentRunner.Proofs.FileSystem.Changes

/-!
# Where a compiler puts its artifact

A compiler that is started with the arguments of `compile` puts its artifact under a plain name that
begins with `lib`, whatever the other settings are, so it never touches the source or the log, which
have other names.
-/

namespace FragmentRunner

open FileSystem

/-- The name of a shared library in the directory that it is in. -/
def libraryFile (name : String) : Name :=
  "lib".toList ++ name.toList ++ ".so".toList

/-- The path of a library in its own directory is its name. -/
theorem libraryName_eq (name : String) : libraryName name = ⟨libraryFile name⟩ := by
  simp [libraryName, Path.ofString, libraryFile]

/-- A library has a plain name. -/
theorem isPlain_libraryFile {name : String} (h : '/' ∉ name.toList) :
    Path.IsPlain (libraryFile name) where
  ne_nil := by simp [libraryFile]
  ne_here := by simp [libraryFile]
  ne_up := by simp [libraryFile, Path.up]
  noSlash := by simpa [libraryFile] using h

theorem valueAfter?_self (flag value : String) (rest : List String) :
    valueAfter? flag (flag :: value :: rest) = some value := by
  rw [valueAfter?, if_pos rfl]

theorem valueAfter?_of_ne {flag first : String} (h : first ≠ flag) (second : String)
    (rest : List String) :
    valueAfter? flag (first :: second :: rest) = valueAfter? flag (second :: rest) := by
  rw [valueAfter?, if_neg h]

namespace BuildDirectory

/-- The name under which a source is compiled holds no slash, so it cannot lead to another
directory. -/
theorem noSlash_crateName (source : Path) : '/' ∉ (crateName source).toList := by
  rw [crateName]
  split
  · next stem hstem =>
    obtain ⟨name, hname, rfl⟩ := Option.map_eq_some_iff.mp hstem
    simp only [String.toList_ofList, List.mem_map, not_exists, not_and]
    intro c hc hslash
    split_ifs at hslash
    · exact absurd hslash (by decide)
    · exact Path.noSlash_of_fileName? hname (Path.mem_of_mem_stem (hslash ▸ hc))
  · decide

/-- The command line with which `program` is started to compile `source`, its own name first. -/
def commandLine (build : BuildDirectory) (source program : Path) : List String :=
  program.spelling :: build.compilerArguments source

theorem commandLine_eq (build : BuildDirectory) (source program : Path) :
    build.commandLine source program
      = program.spelling :: "--crate-type" :: "cdylib" :: "--crate-name" :: crateName source
        :: "--edition" :: build.toolchain.edition
        :: "--error-format" :: build.toolchain.errorFormat.name
        :: "-C" :: ("opt-level=" ++ build.toolchain.optimisation) :: "-A" :: "warnings"
        :: "--out-dir" :: (build.libraryDirectory source).spelling
        :: (build.toolchain.extraArguments ++ [source.spelling]) :=
  rfl

/-- The artifact has the name of a library in some directory. Which directory that is depends on the
settings: they may hold the text of a flag. -/
theorem artifactPath?_commandLine {build : BuildDirectory} {source program path : Path}
    (h : artifactPath? (build.commandLine source program) = some path) :
    ∃ directory name, path = Path.join directory ⟨libraryFile name⟩ ∧ '/' ∉ name.toList := by
  rw [artifactPath?] at h
  obtain ⟨directory, -, h⟩ := Option.bind_eq_some_iff.mp h
  obtain ⟨name, hname, h⟩ := Option.bind_eq_some_iff.mp h
  refine ⟨.ofString directory, name, ?_, ?_⟩
  · rw [← libraryName_eq]
    exact (Option.some.inj h).symm
  · rw [commandLine_eq] at hname
    rw [List.tail_cons, valueAfter?_of_ne (by decide), valueAfter?_of_ne (by decide),
      valueAfter?_self] at hname
    obtain rfl := Option.some.inj hname
    exact noSlash_crateName source

end BuildDirectory

namespace Artifact

variable {artifact : Artifact} {command : List String} {fs : FileSystem} {p path : Path}
  {content : Content} {loc : Location}

/-- A compiler leaves nothing, or its artifact at one place. -/
theorem leave_cases (artifact : Artifact) (command : List String) (fs : FileSystem) :
    artifact.leave command fs = fs ∨
      (∃ path content loc, artifactPath? command = some path ∧ artifact = .file content ∧
        fs.write path content = .ok (artifact.leave command fs) ∧
        WrittenAt fs (artifact.leave command fs) path content loc) ∨
      (∃ path loc, artifactPath? command = some path ∧ artifact = .directory ∧
        fs.locate path = .ok loc ∧ fs.node? loc = none ∧
        ChangedAt fs (artifact.leave command fs) loc ∧
        (artifact.leave command fs).node? loc = some (.directory .full)) := by
  cases hpath : artifactPath? command with
  | none => exact .inl (by simp [leave, hpath])
  | some path =>
    cases artifact with
    | nothing => exact .inl (by simp [leave, hpath])
    | directory =>
      cases hcreate : fs.createDirectory path with
      | error e => exact .inl (by simp [leave, hpath, hcreate, Except.toOption])
      | ok after =>
        have hleave : leave .directory command fs = after := by
          simp [leave, hpath, hcreate, Except.toOption]
        obtain ⟨loc, hlocate, hvacant, hchanged, hnode, -⟩ := createDirectory_eq_ok hcreate
        rw [hleave]
        exact .inr (.inr ⟨path, loc, rfl, rfl, hlocate, hvacant, hchanged, hnode⟩)
    | file content =>
      cases hwrite : fs.write path content with
      | error e => exact .inl (by simp [leave, hpath, hwrite, Except.toOption])
      | ok after =>
        have hleave : leave (.file content) command fs = after := by
          simp [leave, hpath, hwrite, Except.toOption]
        obtain ⟨loc, hwritten⟩ := write_eq_ok hwrite
        rw [hleave]
        exact .inr (.inl ⟨path, content, loc, rfl, rfl, hwrite, hwritten⟩)

/-- A file that has no library's name is as it was before the compiler ended. -/
theorem leave_content {build : BuildDirectory} {source program : Path} {name : Name}
    (hp : fs.locate p = .ok loc) (hlast : loc.getLast? = some name)
    (hname : name.head? ≠ some 'l') :
    (artifact.leave (build.commandLine source program) fs).content p = fs.content p := by
  -- The artifact is under a name that begins with `l`, so it is not where the path leads.
  have hplace : ∀ path place, artifactPath? (build.commandLine source program) = some path →
      fs.locate path = .ok place → loc ≠ place := by
    rintro path place hpath hplace rfl
    obtain ⟨directory, library, rfl, hslash⟩ := BuildDirectory.artifactPath?_commandLine hpath
    obtain ⟨above, -, -, rfl⟩ := locate_join_eq_ok (isPlain_libraryFile hslash) hplace
    rw [List.getLast?_concat] at hlast
    exact hname (by rw [← Option.some.inj hlast]; rfl)
  rcases leave_cases artifact (build.commandLine source program) fs with
    hnothing | ⟨path, content, place, hpath, -, -, hwritten⟩ |
      ⟨path, place, hpath, -, hlocate, -, hchanged, -⟩
  · rw [hnothing]
  · exact hwritten.toChangedAt.content_eq hp (hplace path place hpath hwritten.locate_eq)
  · exact hchanged.content_eq hp (hplace path place hpath hlocate)

end Artifact

end FragmentRunner
