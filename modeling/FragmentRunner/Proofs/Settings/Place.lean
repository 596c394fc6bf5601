import FragmentRunner.Settings
import FragmentRunner.Proofs.FileSystem.Way
import FragmentRunner.Proofs.Path.Absolute
import FragmentRunner.Proofs.Text.Decoding

/-!
# The place of the settings file

The settings can name the program that is started as the compiler, so it matters who can write
them. They are looked for below the configuration home or the home directory. If that is spelled
from the root, what lies in the current directory makes no difference to them, unless the way to
the settings file comes by there. A configuration home that is set to the empty text is taken as it
is, though, and then the settings are those of the current directory.

* `load_congr`: the settings depend on what the path of their file names, and on nothing else.
* `keptFromHere_iff`: when the settings are kept from the current directory.
-/

namespace FragmentRunner.Settings

open FileSystem

variable {env : Environment} {fs fs' : FileSystem} {home config : String} {p : Path}
  {places : Set Location}

/-! ## What loading looks at -/

/-- Reading a settings file depends on what its path names. -/
theorem readFile_congr (h : fs'.status p = fs.status p) : readFile fs' p = readFile fs p := by
  have hcontent : fs'.content p = fs.content p := by
    rw [FileSystem.content, FileSystem.content, h]
  rw [readFile, readFile, FileSystem.read, FileSystem.read, hcontent]

/-- The settings depend on what the path of their file names. -/
theorem load_congr (h : ∀ path, file? env = some path → fs'.status path = fs.status path) :
    load env fs' = load env fs := by
  rw [load, load]
  cases hfile : file? env with
  | none => rfl
  | some path =>
    have hhas : fs'.has path = fs.has path := by
      rw [has, has, h path hfile]
    simp only [hhas, readFile_congr (h path hfile)]

/-- A difference that the way to the settings file keeps clear of makes none to the settings. -/
theorem load_eq_of_avoids (hfile : file? env = some p) (h : SameOutside fs fs' places)
    (havoids : fs.Avoids p places) : load env fs' = load env fs := by
  refine load_congr fun path hpath => ?_
  obtain rfl := Option.some.inj (hfile.symm.trans hpath)
  exact havoids.status_eq h

/-! ## The configuration directory -/

/-- The configuration home is taken as it is set. -/
theorem directory?_of_config (h : env.get? "XDG_CONFIG_HOME" = some config) :
    directory? env = some ((Path.ofString config).join (.ofString "runlet")) := by
  simp [directory?, h]

/-- Without a configuration home, it is the directory `.config` of the home directory. -/
theorem directory?_of_home (hconfig : env.get? "XDG_CONFIG_HOME" = none)
    (hhome : env.get? "HOME" = some home) : directory? env =
      some (((Path.ofString home).join (.ofString ".config")).join (.ofString "runlet")) := by
  simp [directory?, hconfig, hhome]

/-- The configuration directory is spelled from the root if the variable that decides is. -/
theorem exists_absolute_directory (hhome : env.get? "HOME" = some home)
    (habsolute : (Path.ofString home).isAbsolute = true)
    (hconfig : ∀ config, env.get? "XDG_CONFIG_HOME" = some config →
      (Path.ofString config).isAbsolute = true) :
    ∃ directory, directory? env = some directory ∧ directory.isAbsolute = true := by
  cases hset : env.get? "XDG_CONFIG_HOME" with
  | none =>
    exact ⟨_, directory?_of_home hset hhome,
      Path.isAbsolute_join_of_isAbsolute (Path.isAbsolute_join_of_isAbsolute habsolute _) _⟩
  | some config =>
    exact ⟨_, directory?_of_config hset,
      Path.isAbsolute_join_of_isAbsolute (hconfig config hset) _⟩

/-! ## The current directory -/

/-- The settings do not come from the current directory: the configuration directory is spelled
from the root, and what lies below the current directory makes no difference to the settings,
unless the way to the settings file comes by there, which without double dots means that the file
is there itself. -/
def KeptFromHere (env : Environment) : Prop :=
  ∃ directory, directory? env = some directory ∧ directory.isAbsolute = true ∧
    ∀ fs fs' : FileSystem, SameOutside fs fs' (below fs.here) →
      fs.Avoids (directory.join (.ofString "config.toml")) (below fs.here) →
      load env fs' = load env fs

/-- The file system with `text` in the settings file of a configuration directory in the current
directory. -/
def withSettingsHere (fs : FileSystem) (text : String) : FileSystem :=
  (fs.put (fs.here ++ ["runlet".toList]) (.directory .full)).put
    (fs.here ++ ["runlet".toList, "config.toml".toList]) (.file (.text text) false)

/-- The settings file is put below the current directory. -/
theorem sameOutside_withSettingsHere (fs : FileSystem) (text : String) :
    SameOutside fs (withSettingsHere fs text) (below fs.here) :=
  ((SameOutside.refl fs).put (by simp) (append_mem_below fs.here (by simp)) _).put (by simp)
    (append_mem_below fs.here (by simp)) _

/-- The settings file in the current directory is found by a path that starts there. -/
theorem status_withSettingsHere (hhere : fs.Passable fs.here) (text : String) :
    (withSettingsHere fs text).status (.ofString "runlet/config.toml") =
      .ok (.file (.text text) false) := by
  have hdirectory : (withSettingsHere fs text).Passable (fs.here ++ ["runlet".toList]) := by
    refine ⟨.full, ?_, by decide⟩
    rw [withSettingsHere, node?_put (by simp), node?_put (by simp)]
    simp
  have hfile : (withSettingsHere fs text).node?
      (fs.here ++ ["runlet".toList, "config.toml".toList]) = some (.file (.text text) false) := by
    rw [withSettingsHere, node?_put (by simp), if_pos rfl]
  have hstart : (withSettingsHere fs text).Passable fs.here := by
    obtain ⟨access, hnode, hopen⟩ := hhere
    refine ⟨access, ?_, hopen⟩
    rw [withSettingsHere, node?_put (by simp), node?_put (by simp)]
    simpa using hnode
  have hwalk : (withSettingsHere fs text).walk fs.here ["runlet".toList, "config.toml".toList] =
      .ok (fs.here ++ ["runlet".toList, "config.toml".toList]) := by
    rw [walk_cons_of_passable hstart (by decide), next_of_isPlain (by decide),
      walk_cons_of_passable hdirectory (by decide), next_of_isPlain (by decide), walk,
      List.append_assoc, List.singleton_append]
  have hlocate : (withSettingsHere fs text).locate (.ofString "runlet/config.toml") =
      .ok (fs.here ++ ["runlet".toList, "config.toml".toList]) :=
    locate_eq_ok_iff.mpr ⟨by decide, hwalk⟩
  rw [status, hlocate]
  simp only [bind, Except.bind, hfile]
  rfl

/-- If the configuration home is set to the empty text, the settings are those in the current
directory, whatever they are. -/
theorem load_withSettingsHere (hconfig : env.get? "XDG_CONFIG_HOME" = some "")
    (hhere : fs.Passable fs.here) (text : String) :
    load env (withSettingsHere fs text) = parse text := by
  have hfile : file? env = some (.ofString "runlet/config.toml") := by
    rw [file?, directory?_of_config hconfig]
    rfl
  have hstatus := status_withSettingsHere hhere text
  have hread : (withSettingsHere fs text).read (.ofString "runlet/config.toml") =
      .ok (Text.Utf8.encode text.toList) := by
    rw [FileSystem.read, FileSystem.content, hstatus]
    rfl
  rw [load, hfile]
  simp only [has, hstatus, if_true, readFile, hread, Text.Utf8.decode?_encode, String.ofList_toList]

/-- With a home directory spelled from the root, and a configuration home that is not set, empty or
spelled from the root, the settings are kept from the current directory unless the configuration
home is empty. Then they are whatever anyone has put there. -/
theorem keptFromHere_iff (hhome : env.get? "HOME" = some home)
    (habsolute : (Path.ofString home).isAbsolute = true)
    (hconfig : ∀ config, env.get? "XDG_CONFIG_HOME" = some config →
      config = "" ∨ (Path.ofString config).isAbsolute = true) :
    (KeptFromHere env ↔ env.get? "XDG_CONFIG_HOME" ≠ some "") ∧
      (env.get? "XDG_CONFIG_HOME" = some "" → ∀ (fs : FileSystem) (text : String),
        fs.Passable fs.here →
          ∃ fs', SameOutside fs fs' (below fs.here) ∧ load env fs' = parse text) := by
  refine ⟨⟨?_, ?_⟩, ?_⟩
  · rintro ⟨directory, hdirectory, hroot, -⟩ hempty
    -- The empty text leaves a path that starts at the current directory.
    rw [directory?_of_config hempty] at hdirectory
    rw [← Option.some.inj hdirectory] at hroot
    exact absurd hroot (by decide)
  · intro hempty
    obtain ⟨directory, hdirectory, hroot⟩ := exists_absolute_directory hhome habsolute
      fun config hset => (hconfig config hset).resolve_left fun heq => hempty (heq ▸ hset)
    have hfile : file? env = some (directory.join (.ofString "config.toml")) := by
      rw [file?, hdirectory, Option.map_some]
    exact ⟨directory, hdirectory, hroot, fun fs fs' => load_eq_of_avoids hfile⟩
  · intro hempty fs text hhere
    exact ⟨withSettingsHere fs text, sameOutside_withSettingsHere fs text,
      load_withSettingsHere hempty hhere text⟩

/-- With the home directory alone, a file in the current directory does not choose the compiler. -/
theorem compiler_not_chosen_from_here :
    let env : Environment := ⟨[("HOME", "/home/u")]⟩
    let fs : FileSystem :=
      { entries := [(["srv".toList], .directory .full)], here := ["srv".toList] }
    KeptFromHere env ∧
      load env (withSettingsHere fs "toolchain.rustc = \"./evil\"") = load env fs := by
  intro env fs
  have hkept : KeptFromHere env :=
    (keptFromHere_iff rfl (by decide) (by simp [env, Environment.get?])).1.mpr
      (by simp [env, Environment.get?])
  refine ⟨hkept, ?_⟩
  obtain ⟨directory, hdirectory, -, hload⟩ := hkept
  refine hload fs _ (sameOutside_withSettingsHere fs _) ?_
  -- The settings file is below the home directory, and that is not below the current one.
  obtain rfl := Option.some.inj hdirectory
  exact (avoids_below_iff (by decide)).mpr fun hbelow => absurd hbelow.1 (by decide)

/-- With an empty configuration home besides, it does. -/
theorem compiler_chosen_from_here :
    let env : Environment := ⟨[("HOME", "/home/u"), ("XDG_CONFIG_HOME", "")]⟩
    let fs : FileSystem :=
      { entries := [(["srv".toList], .directory .full)], here := ["srv".toList] }
    directory? env = some (.ofString "runlet") ∧ (Path.ofString "runlet").isAbsolute = false ∧
      load env fs = .ok {} ∧
      load env (withSettingsHere fs "toolchain.rustc = \"./evil\"") =
        .ok { toolchain := { compiler := some (.ofString "./evil") } } := by
  intro env fs
  refine ⟨rfl, rfl, rfl, ?_⟩
  have hread : (Toml.parse? "toolchain.rustc = \"./evil\"".toList).bind ofDocument? =
      some { toolchain := { compiler := some (.ofString "./evil") } } := by
    decide +kernel
  rw [load_withSettingsHere (by rfl) ⟨.full, by rfl, by decide⟩, parse, hread]

end FragmentRunner.Settings
