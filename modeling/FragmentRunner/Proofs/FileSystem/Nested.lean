import FragmentRunner.Proofs.FileSystem.Changes
import FragmentRunner.Proofs.Path.Spelling

/-!
# Directories in directories

In a file system of an operating system each directory is in a directory. `Nested` says so; the
operations that create directories keep it. It is what makes a double dot lead to a directory, so
that a path under which a file was written ends in the plain name of this file.

* `Nested.createDirectories`: the step of one directory, and the recursion over those above it.
* `Nested.exists_join_of_write`: the path of a file that was written.
-/

namespace FragmentRunner.FileSystem

variable {fs fs' : FileSystem} {loc : Location} {p : Path} {content : Content}

/-- Every directory is in a directory; the root is taken to be in itself. -/
def Nested (fs : FileSystem) : Prop :=
  ∀ loc access, fs.node? loc = some (.directory access) →
    ∃ above, fs.node? loc.dropLast = some (.directory above)

/-- A file system is nested if each of its entries is in a directory, which can be looked up. -/
theorem nested_of_entries
    (h : ∀ entry ∈ fs.entries, (fs.node? entry.1.dropLast).map Node.isDirectory = some true) :
    fs.Nested := by
  intro loc access hnode
  by_cases hroot : loc = []
  · exact ⟨.full, by simp [hroot, node?]⟩
  · rw [node?, if_neg hroot] at hnode
    obtain ⟨before, after, hentries, -⟩ := List.lookup_eq_some_iff.mp hnode
    have habove := h (loc, .directory access) (by simp [hentries])
    rcases hfound : fs.node? loc.dropLast with _ | ⟨above⟩ | ⟨stored, executable⟩
    · simp [hfound] at habove
    · exact ⟨above, rfl⟩
    · simp [hfound, Node.isDirectory] at habove

namespace Nested

/-- A directory is created in a directory. -/
theorem createDirectory (h : fs.Nested) (hcreate : fs.createDirectory p = .ok fs') :
    fs'.Nested := by
  obtain ⟨place, -, -, hchanged, -, habove⟩ := createDirectory_eq_ok hcreate
  intro loc access hnode
  by_cases hloc : loc = place
  · rw [hloc]
    exact ⟨.full, hchanged.directory habove⟩
  · rw [hchanged.elsewhere loc hloc] at hnode
    obtain ⟨above, hbefore⟩ := h loc access hnode
    exact ⟨above, hchanged.directory hbefore⟩

/-- A directory is created unless there is one. -/
theorem ensureDirectory (h : fs.Nested) (p : Path) : (fs.ensureDirectory p).1.Nested := by
  rw [FileSystem.ensureDirectory]
  split
  · next after hcreate => exact h.createDirectory hcreate
  · exact h

/-- The directories above are created first, as far as they are missing. -/
theorem ensureFirst (h : fs.Nested) (paths : List Path) : (fs.ensureFirst paths).1.Nested := by
  induction paths with
  | nil => exact h
  | cons p above ih =>
    have hstep := h.ensureDirectory p
    rw [FileSystem.ensureFirst]
    split
    · -- The way to `p` was missing.
      split
      · next after hdone =>
        rw [hdone] at ih
        exact ensureDirectory ih p
      · exact ih
    · exact hstep

/-- Creating a directory and those above it keeps the file system nested. -/
theorem createDirectories (h : fs.Nested) (p : Path) : (fs.createDirectories p).1.Nested :=
  h.ensureFirst p.ancestors

/-- A path that leads to something else than a directory, and that does not end with a slash, ends
in a plain name. -/
theorem exists_join (h : fs.Nested) (hlocate : fs.locate p = .ok loc)
    (hslash : p.endsWithSlash = false)
    (hnode : ∀ access, fs.node? loc ≠ some (.directory access)) :
    ∃ directory name, Path.IsPlain name ∧ p = Path.join directory ⟨name⟩ := by
  obtain ⟨hcheck, hwalk⟩ := locate_eq_ok_iff.mp hlocate
  have hne : p.chars ≠ [] := by
    intro hempty
    rw [checkPath] at hcheck
    split_ifs at hcheck with hnul hnil
    exact hnil (by simp [hempty])
  obtain ⟨directory, front, name, hnil, hname, hjoin, hsteps⟩ := Path.exists_join hne hslash
  rw [hsteps] at hwalk
  obtain ⟨mid, -, hlast⟩ := walk_append_eq_ok hwalk
  obtain ⟨⟨access, hmid, -⟩, -, hnext⟩ := walk_cons_eq_ok_iff.mp hlast
  rw [walk, next, Except.ok.injEq] at hnext
  refine ⟨directory, name, ⟨hnil, ?_, ?_, hname⟩, hjoin⟩
  · -- A single dot stays in the directory that the other steps lead to.
    rintro rfl
    obtain rfl : mid = loc := hnext
    exact hnode access hmid
  · -- A double dot leads to the directory which that one is in.
    rintro rfl
    obtain rfl : mid.dropLast = loc := hnext
    obtain ⟨above, habove⟩ := h mid access hmid
    exact hnode above habove

/-- A file that was written has a plain name. -/
theorem exists_join_of_write (h : fs.Nested) (hwrite : fs.write p content = .ok fs') :
    ∃ directory name, Path.IsPlain name ∧ p = Path.join directory ⟨name⟩ := by
  obtain ⟨loc, hwritten⟩ := write_eq_ok hwrite
  exact h.exists_join hwritten.locate_eq hwritten.noSlash hwritten.noDirectory

end Nested

end FragmentRunner.FileSystem
