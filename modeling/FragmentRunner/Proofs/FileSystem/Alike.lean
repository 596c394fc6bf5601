import FragmentRunner.Proofs.FileSystem.Frame

/-!
# The same change in two file systems

Two file systems that differ in some files only cannot be told apart by those who keep away from
these files: a path leads to the same location in both, and a file that is written or removed at
another location is written or removed in both, or in neither. `ChangedAlike` says that of the file
systems before and after.

* `Overwritten.write_alike` and `Overwritten.remove_alike`: the two changes of files.
-/

namespace FragmentRunner.FileSystem

variable {fs fs' other other' : FileSystem} {places : Set Location} {loc : Location} {p : Path}

/-- The file system in which the file at `p` holds `content`. What cannot be written is not
written. -/
def tryWrite (fs : FileSystem) (p : Path) (content : Content) : FileSystem :=
  (fs.write p content).toOption.getD fs

/-- A write that succeeds is made. -/
theorem tryWrite_of_ok {content : Content} (h : fs.write p content = .ok fs') :
    fs.tryWrite p content = fs' := by
  rw [tryWrite, h]
  rfl

/-- A write that fails changes nothing. -/
theorem tryWrite_of_error {content : Content} {e : IoError} (h : fs.write p content = .error e) :
    fs.tryWrite p content = fs := by
  rw [tryWrite, h]
  rfl

/-- A write makes no directory, so a path leads where it led. -/
theorem locate_tryWrite_iff {content : Content} {q : Path} {place : Location} :
    (fs.tryWrite q content).locate p = .ok place ↔ fs.locate p = .ok place := by
  cases hwrite : fs.write q content with
  | error e => rw [tryWrite_of_error hwrite]
  | ok after =>
    obtain ⟨loc, hwritten⟩ := write_eq_ok hwrite
    rw [tryWrite_of_ok hwrite]
    exact hwritten.toChangedAt.locate_iff hwritten.noDirectory_after

/-- From `fs` to `fs'` the same is changed as from `other` to `other'`: one location that is none of
`places`, or nothing at all. -/
def ChangedAlike (fs fs' other other' : FileSystem) (places : Set Location) : Prop :=
  (fs' = fs ∧ other' = other) ∨ ∃ loc ∉ places, ChangedAt fs fs' loc ∧ ChangedAt other other' loc ∧
    other'.node? loc = fs'.node? loc

/-- Nothing is added where no directory allows it. -/
theorem addAt_of_ne {node : Node} (h : fs.node? loc.dropLast ≠ some (.directory .full)) :
    fs.addAt loc node = .error .permissionDenied := by
  rw [addAt]
  split
  · next habove => exact absurd habove h
  · rfl

namespace ChangedAlike

/-- The same node is put into both. -/
theorem put (hloc : loc ∉ places) (hfs : ∀ access, fs.node? loc ≠ some (.directory access))
    (hother : ∀ access, other.node? loc ≠ some (.directory access)) (node : Node) :
    ChangedAlike fs (fs.put loc node) other (other.put loc node) places :=
  .inr ⟨loc, hloc, changedAt_put hfs node, changedAt_put hother node, by
    rw [node?_put_self hfs, node?_put_self hother]⟩

/-- The same node is erased from both. -/
theorem erase (hloc : loc ∉ places) (hfs : ∀ access, fs.node? loc ≠ some (.directory access))
    (hother : ∀ access, other.node? loc ≠ some (.directory access)) :
    ChangedAlike fs (fs.erase loc) other (other.erase loc) places :=
  .inr ⟨loc, hloc, changedAt_erase hfs, changedAt_erase hother, by
    rw [node?_erase_self hfs, node?_erase_self hother]⟩

end ChangedAlike

namespace Overwritten

/-- A path under which no file can be written in the one file system is none in the other. -/
theorem locateFile_error (h : Overwritten fs other places) {e : IoError}
    (hother : other.locateFile p = .error e) : ∃ e', fs.locateFile p = .error e' := by
  cases hfound : fs.locateFile p with
  | error e' => exact ⟨e', rfl⟩
  | ok loc =>
    obtain ⟨hlocate, hslash⟩ := locateFile_eq_ok hfound
    cases hother.symm.trans (locateFile_of_locate (h.locate_iff.mpr hlocate) hslash)

/-- A write that keeps away from the places does the same in both file systems. -/
theorem write_alike (h : Overwritten fs other places)
    (hp : ∀ loc ∈ places, other.locate p ≠ .ok loc) (content : Content) :
    ChangedAlike fs (fs.tryWrite p content) other (other.tryWrite p content) places := by
  -- If both writes fail, nothing is changed.
  have hfail : ∀ e e', other.write p content = .error e → fs.write p content = .error e' →
      ChangedAlike fs (fs.tryWrite p content) other (other.tryWrite p content) places :=
    fun e e' hother hfs => .inl ⟨tryWrite_of_error hfs, tryWrite_of_error hother⟩
  cases hfound : other.locateFile p with
  | error e =>
    obtain ⟨e', hfound'⟩ := h.locateFile_error hfound
    refine hfail e e' ?_ ?_
    · rw [FileSystem.write, hfound]
      rfl
    · rw [FileSystem.write, hfound']
      rfl
  | ok loc =>
    obtain ⟨hlocate, hslash⟩ := locateFile_eq_ok hfound
    have hloc : loc ∉ places := fun hmem => hp loc hmem hlocate
    have hfound' := locateFile_of_locate (h.locate_iff.mp hlocate) hslash
    -- If both writes succeed, they put the same node there.
    have hput : ∀ node, other.write p content = .ok (other.put loc node) →
        fs.write p content = .ok (fs.put loc node) →
        (∀ access, fs.node? loc ≠ some (.directory access)) →
        ChangedAlike fs (fs.tryWrite p content) other (other.tryWrite p content) places := by
      intro node hother hfs hfree
      rw [tryWrite_of_ok hfs, tryWrite_of_ok hother]
      exact .put hloc hfree (h.elsewhere loc hloc ▸ hfree) node
    have hnode := h.elsewhere loc hloc
    rcases hbefore : fs.node? loc with - | ⟨access⟩ | ⟨old, executable⟩ <;> rw [hbefore] at hnode
    · by_cases habove : fs.node? loc.dropLast = some (.directory .full)
      · have habove' := h.directory_iff.mpr habove
        refine hput (.file content false) ?_ ?_ (by simp [hbefore])
        · simp [FileSystem.write, addAt, hfound, hnode, habove', bind, Except.bind]
        · simp [FileSystem.write, addAt, hfound', hbefore, habove, bind, Except.bind]
      · have habove' := mt h.directory_iff.mp habove
        refine hfail .permissionDenied .permissionDenied ?_ ?_
        · simp [FileSystem.write, hfound, hnode, addAt_of_ne habove', bind, Except.bind]
        · simp [FileSystem.write, hfound', hbefore, addAt_of_ne habove, bind, Except.bind]
    · refine hfail .isADirectory .isADirectory ?_ ?_
      · simp [FileSystem.write, hfound, hnode, bind, Except.bind]
      · simp [FileSystem.write, hfound', hbefore, bind, Except.bind]
    · refine hput (.file content executable) ?_ ?_ (by simp [hbefore])
      · simp [FileSystem.write, hfound, hnode, bind, Except.bind]
      · simp [FileSystem.write, hfound', hbefore, bind, Except.bind]

/-- A removal that keeps away from the places does the same in both file systems. -/
theorem remove_alike (h : Overwritten fs other places)
    (hp : ∀ loc ∈ places, other.locate p ≠ .ok loc) :
    ChangedAlike fs (fs.removeFile p) other (other.removeFile p) places := by
  cases hfile : other.isFile p with
  | true =>
    obtain ⟨loc, content, executable, hlocate, hslash, hnode⟩ := isFile_iff.mp hfile
    have hloc : loc ∉ places := fun hmem => hp loc hmem hlocate
    have hbefore : fs.node? loc = some (.file content executable) := by
      rw [← h.elsewhere loc hloc, hnode]
    rw [removeFile_of_file hlocate hslash hnode,
      removeFile_of_file (h.locate_iff.mp hlocate) hslash hbefore]
    exact .erase hloc (by simp [hbefore]) (by simp [hnode])
  | false =>
    refine .inl ⟨removeFile_of_isFile_eq_false ?_, removeFile_of_isFile_eq_false hfile⟩
    -- A file in the first one would be a file in the second one.
    rw [Bool.eq_false_iff]
    intro hbefore
    obtain ⟨loc, content, executable, hlocate, hslash, hnode⟩ := isFile_iff.mp hbefore
    have hlocate' := h.locate_iff.mpr hlocate
    have hloc : loc ∉ places := fun hmem => hp loc hmem hlocate'
    rw [← h.elsewhere loc hloc] at hnode
    have hother := isFile_iff.mpr ⟨loc, content, executable, hlocate', hslash, hnode⟩
    rw [hfile] at hother
    cases hother

end Overwritten

end FragmentRunner.FileSystem
