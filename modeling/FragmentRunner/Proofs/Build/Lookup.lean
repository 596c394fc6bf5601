import FragmentRunner.Lookup
import FragmentRunner.Proofs.FileSystem.Changes
import FragmentRunner.Proofs.Path.Absolute
import Mathlib.Data.List.Find

/-!
# What the search for a compiler finds

A compiler that nothing names is the first one in the directories of `PATH`; `IsFirstOnPath` says so
without the search. What is found depends on which candidates may be executed, and all candidates
end in one name, so a file that is written under another name makes no difference.

* `searchCompiler_eq_ok_iff`: the search finds the first compiler on the search path.
* `resolve_of_write`: a file under another name makes no difference.
-/

namespace FragmentRunner

open FileSystem

variable {env : Environment} {fs fs' : FileSystem} {program p directory : Path} {loc : Location}
  {content : Content}

/-! ## The environment -/

/-- The environment in which a variable is not set. -/
def Environment.without (env : Environment) (name : String) : Environment :=
  ⟨env.bindings.filter (·.1 ≠ name)⟩

/-- The other variables are as they were. -/
theorem Environment.get?_without (env : Environment) (name other : String) :
    (env.without name).get? other = if other = name then none else env.get? other :=
  lookup_filter_ne env.bindings name other

/-! ## The first compiler on the search path -/

/-- `program` is the compiler in one of the directories of `PATH` and may be executed, and in none
of the directories that are listed before is one that may be executed. -/
def IsFirstOnPath (env : Environment) (fs : FileSystem) (program : Path) : Prop :=
  ∃ value before directory after, env.get? "PATH" = some value ∧
    searchDirectories value = before ++ directory :: after ∧
    program = compilerIn env fs.currentDirectory directory ∧
    fs.checkExecutable program = .ok () ∧
    ∀ earlier ∈ before, fs.checkExecutable (compilerIn env fs.currentDirectory earlier) ≠ .ok ()

/-- A program may be executed if it passes the check for that. -/
theorem isOk_checkExecutable_iff :
    (fs.checkExecutable p).isOk = true ↔ fs.checkExecutable p = .ok () := by
  rcases fs.checkExecutable p with e | ⟨⟩ <;> simp [Except.isOk, Except.toBool]

/-- The candidates of the search, in order. -/
def compilerCandidates (env : Environment) (here : Path) : List Path :=
  ((env.get? "PATH").elim [] searchDirectories).map (compilerIn env here)

/-- The search finds the first candidate that may be executed. -/
theorem toOption_searchCompiler (env : Environment) (fs : FileSystem) :
    (searchCompiler env fs).toOption =
      (compilerCandidates env fs.currentDirectory).find? fun candidate =>
        (fs.checkExecutable candidate).isOk := by
  rw [searchCompiler, compilerCandidates]
  cases env.get? "PATH" with
  | none => rfl
  | some value =>
    simp only [Option.elim_some]
    split
    · next compiler hfound => rw [hfound]; rfl
    · next hfound => rw [hfound]; rfl

/-- The search finds the first compiler on the search path. -/
theorem searchCompiler_eq_ok_iff :
    searchCompiler env fs = .ok program ↔ IsFirstOnPath env fs program := by
  have hfound : searchCompiler env fs = .ok program ↔
      (searchCompiler env fs).toOption = some program := by
    cases searchCompiler env fs <;> simp [Except.toOption]
  rw [hfound, toOption_searchCompiler, compilerCandidates, IsFirstOnPath]
  cases env.get? "PATH" with
  | none => simp
  | some value =>
    simp only [Option.elim_some, List.find?_map, Option.map_eq_some_iff,
      List.find?_eq_some_iff_append, Function.comp_apply, isOk_checkExecutable_iff,
      Bool.not_eq_true', Bool.eq_false_iff, ne_eq]
    constructor
    · rintro ⟨directory, ⟨hexecutable, before, after, hdirectories, hbefore⟩, rfl⟩
      exact ⟨value, before, directory, after, rfl, hdirectories, rfl, hexecutable, hbefore⟩
    · rintro ⟨_, before, directory, after, ⟨⟩, hdirectories, rfl, hexecutable, hbefore⟩
      exact ⟨directory, ⟨hexecutable, before, after, hdirectories, hbefore⟩, rfl⟩

/-! ## Files under other names -/

/-- A compiler is looked for under a plain name. -/
theorem isPlain_compilerName : Path.IsPlain "rustc".toList := by decide

/-- The last step to a candidate is the name of the compiler, however its directory is spelled. -/
theorem exists_steps_compilerIn (env : Environment) (here directory : Path) :
    ∃ front, (compilerIn env here directory).steps = front ++ ["rustc".toList] := by
  have hsteps := Path.steps_join (expandTilde env directory) isPlain_compilerName
  simp only [compilerIn]
  split_ifs
  · exact ⟨_, hsteps⟩
  · -- The spelling from the root leaves out single dots, and the name is none.
    have hfilter : ["rustc".toList].filter (fun step => step ≠ ['.']) = ["rustc".toList] := by decide
    rw [Path.steps_absolute, compilerName, Path.ofString, hsteps, List.filter_append, hfilter,
      ← List.append_assoc]
    exact ⟨_, rfl⟩

/-- A path whose last step is a plain name leads to a location of that name. -/
theorem getLast?_of_locate {front : List Name} {name : Name} (hname : Path.IsPlain name)
    (hsteps : p.steps = front ++ [name]) (h : fs.locate p = .ok loc) :
    loc.getLast? = some name := by
  obtain ⟨-, hwalk⟩ := locate_eq_ok_iff.mp h
  rw [hsteps] at hwalk
  obtain ⟨above, -, hlast⟩ := walk_append_eq_ok hwalk
  obtain ⟨-, -, rfl⟩ := (walk_plain_eq_ok_iff hname).mp hlast
  exact List.getLast?_concat

/-- What may be executed leads somewhere. -/
theorem exists_locate_of_checkExecutable (h : fs.checkExecutable p = .ok ()) :
    ∃ loc, fs.locate p = .ok loc := by
  cases hlocate : fs.locate p with
  | error e => simp [checkExecutable, status, hlocate, bind, Except.bind] at h
  | ok loc => exact ⟨loc, rfl⟩

/-- Whether a program may be executed is as before after a file was written under another name. -/
theorem checkExecutable_of_write {front : List Name} {name written : Name}
    (hname : Path.IsPlain name) (hsteps : p.steps = front ++ [name])
    (hwritten : Path.IsPlain written) (hne : name ≠ written)
    (h : fs.write (directory.join ⟨written⟩) content = .ok fs') :
    fs'.checkExecutable p = .ok () ↔ fs.checkExecutable p = .ok () := by
  obtain ⟨place, hchanged, hplace⟩ := write_join_eq_ok hwritten h
  have hsame : ∀ loc, fs.locate p = .ok loc → fs'.checkExecutable p = fs.checkExecutable p := by
    intro loc hlocate
    have hlast := getLast?_of_locate hname hsteps hlocate
    rw [checkExecutable, checkExecutable, hchanged.toChangedAt.status_eq hlocate]
    rintro rfl
    exact hne (Option.some.inj (hlast.symm.trans hplace))
  constructor
  · intro hexecutable
    obtain ⟨loc, hlocate⟩ := exists_locate_of_checkExecutable hexecutable
    rwa [← hsame loc ((hchanged.toChangedAt.locate_iff hchanged.noDirectory_after).mp hlocate)]
  · intro hexecutable
    obtain ⟨loc, hlocate⟩ := exists_locate_of_checkExecutable hexecutable
    rwa [hsame loc hlocate]

/-- The search finds the same compiler after a file was written under another name. -/
theorem searchCompiler_of_write (env : Environment) {written : Name}
    (hwritten : Path.IsPlain written) (hne : "rustc".toList ≠ written)
    (h : fs.write (directory.join ⟨written⟩) content = .ok fs') :
    searchCompiler env fs' = searchCompiler env fs := by
  obtain ⟨place, hchanged, -⟩ := write_join_eq_ok hwritten h
  have hhere : fs'.currentDirectory = fs.currentDirectory := by
    rw [currentDirectory, currentDirectory, hchanged.here]
  have hsame : ∀ directory, (fs'.checkExecutable
        (compilerIn env fs.currentDirectory directory)).isOk =
      (fs.checkExecutable (compilerIn env fs.currentDirectory directory)).isOk := by
    intro directory
    obtain ⟨front, hsteps⟩ := exists_steps_compilerIn env fs.currentDirectory directory
    rw [Bool.eq_iff_iff, isOk_checkExecutable_iff, isOk_checkExecutable_iff]
    exact checkExecutable_of_write isPlain_compilerName hsteps hwritten hne h
  rw [searchCompiler, searchCompiler]
  cases env.get? "PATH" with
  | none => rfl
  | some value =>
    have hfound : ((searchDirectories value).map (compilerIn env fs.currentDirectory)).find?
          (fun candidate => (fs'.checkExecutable candidate).isOk) =
        ((searchDirectories value).map (compilerIn env fs.currentDirectory)).find?
          (fun candidate => (fs.checkExecutable candidate).isOk) := by
      refine List.find?_congr fun candidate hmem => ?_
      obtain ⟨directory, -, rfl⟩ := List.mem_map.mp hmem
      exact hsame directory
    simp only [hhere, hfound]

/-- The same compiler is run after a file was written under another name. -/
theorem resolve_of_write (toolchain : Toolchain) (env : Environment) {written : Name}
    (hwritten : Path.IsPlain written) (hne : "rustc".toList ≠ written)
    (h : fs.write (directory.join ⟨written⟩) content = .ok fs') :
    toolchain.resolve env fs' = toolchain.resolve env fs := by
  rw [Toolchain.resolve, Toolchain.resolve, searchCompiler_of_write env hwritten hne h]

/-- The search does not look at the variable that names the compiler. -/
theorem searchCompiler_without (env : Environment) (fs : FileSystem) :
    searchCompiler (env.without compilerVariable) fs = searchCompiler env fs := by
  have hpath : (env.without compilerVariable).get? "PATH" = env.get? "PATH" := by
    rw [Environment.get?_without, if_neg (by decide)]
  have hhome : (env.without compilerVariable).nonempty? "HOME" = env.nonempty? "HOME" := by
    rw [Environment.nonempty?, Environment.nonempty?, Environment.get?_without,
      if_neg (by decide)]
  have hcandidate : compilerIn (env.without compilerVariable) = compilerIn env := by
    funext here directory
    rw [compilerIn, compilerIn, expandTilde, expandTilde, hhome]
  rw [searchCompiler, searchCompiler, hpath, hcandidate]

end FragmentRunner
