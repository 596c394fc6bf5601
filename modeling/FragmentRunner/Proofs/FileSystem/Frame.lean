import FragmentRunner.Proofs.FileSystem.Changes
import Mathlib.Data.Set.Insert

/-!
# What a series of writes leaves alone

A series of writes ends with a file in each of a few places, none of which was a directory before.
`Overwritten` says that of the file systems before and after. It keeps every directory and makes
none, so a path leads to the same location before and after: the places of a series can all be
named by where the paths lead before it begins.

`ChangedWithin` says less, and is what remains true when a directory is created at last.
-/

namespace FragmentRunner.FileSystem

variable {fs fs' after : FileSystem} {loc other : Location} {p : Path} {content : Content}
  {places : Set Location}

/-- `fs'` is `fs` with a file in each of `places`. -/
structure Overwritten (fs fs' : FileSystem) (places : Set Location) : Prop where
  here : fs'.here = fs.here
  noDirectory : ∀ loc ∈ places, ∀ access, fs.node? loc ≠ some (.directory access)
  file : ∀ loc ∈ places, ∃ content executable, fs'.node? loc = some (.file content executable)
  elsewhere : ∀ loc ∉ places, fs'.node? loc = fs.node? loc

namespace Overwritten

/-- Nothing was written. -/
theorem refl (fs : FileSystem) : Overwritten fs fs ∅ where
  here := rfl
  noDirectory _ h := h.elim
  file _ h := h.elim
  elsewhere _ _ := rfl

/-- The directories are those that there were. -/
theorem directory_iff (h : Overwritten fs fs' places) {access : Access} :
    fs'.node? loc = some (.directory access) ↔ fs.node? loc = some (.directory access) := by
  by_cases hloc : loc ∈ places
  · obtain ⟨content, executable, hfile⟩ := h.file loc hloc
    have hbefore := h.noDirectory loc hloc access
    simp [hfile, hbefore]
  · rw [h.elsewhere loc hloc]

/-- A path leads where it led. -/
theorem locate_iff (h : Overwritten fs fs' places) :
    fs'.locate p = .ok loc ↔ fs.locate p = .ok loc := by
  constructor
  · exact locate_eq_ok_of_directories h.here.symm fun _ _ hnode => h.directory_iff.mp hnode
  · exact locate_eq_ok_of_directories h.here fun _ _ hnode => h.directory_iff.mpr hnode

/-- One more file is written, where its path led before the series. -/
theorem write (h : Overwritten fs fs' places) (hwrite : fs'.write p content = .ok after) :
    ∃ loc, fs.locate p = .ok loc ∧ Overwritten fs after (insert loc places) := by
  obtain ⟨loc, hwritten⟩ := write_eq_ok hwrite
  have hchanged := hwritten.toChangedAt
  refine ⟨loc, h.locate_iff.mp hwritten.locate_eq, hchanged.here.trans h.here, ?_, ?_, ?_⟩
  · -- The series has made no directory, so there was none here before it either.
    rintro other (rfl | hother) access hnode
    · exact hchanged.noDirectory access (h.directory_iff.mpr hnode)
    · exact h.noDirectory other hother access hnode
  · -- A place may be written to more than once; the last file is the one that is there.
    rintro other hmem
    by_cases hother : other = loc
    · obtain ⟨executable, hfile⟩ := hwritten.file
      exact ⟨content, executable, hother ▸ hfile⟩
    · rw [hchanged.elsewhere other hother]
      exact h.file other (hmem.resolve_left hother)
  · intro other hother
    obtain ⟨hne, hplaces⟩ := not_or.mp hother
    rw [hchanged.elsewhere other hne, h.elsewhere other hplaces]

end Overwritten

/-- Nothing outside `places` is different in `fs'`, and nothing that was in `fs` is gone. -/
structure ChangedWithin (fs fs' : FileSystem) (places : Set Location) : Prop where
  here : fs'.here = fs.here
  elsewhere : ∀ loc ∉ places, fs'.node? loc = fs.node? loc
  directory : ∀ loc access, fs.node? loc = some (.directory access) →
    fs'.node? loc = some (.directory access)
  kept : ∀ loc, (fs.node? loc).isSome = true → (fs'.node? loc).isSome = true

/-- A series of writes changes the places that were written to. -/
theorem Overwritten.changedWithin (h : Overwritten fs fs' places) : ChangedWithin fs fs' places where
  here := h.here
  elsewhere := h.elsewhere
  directory _ _ hnode := h.directory_iff.mpr hnode
  kept loc hsome := by
    by_cases hloc : loc ∈ places
    · obtain ⟨content, executable, hfile⟩ := h.file loc hloc
      simp [hfile]
    · rwa [h.elsewhere loc hloc]

namespace ChangedWithin

/-- What was changed within some places was changed within more. -/
theorem mono {more : Set Location} (h : ChangedWithin fs fs' places) (hsub : places ⊆ more) :
    ChangedWithin fs fs' more where
  here := h.here
  elsewhere loc hloc := h.elsewhere loc fun hmem => hloc (hsub hmem)
  directory := h.directory
  kept := h.kept

/-- Something is put at one more place, where no directory was. -/
theorem put {node : Node} (h : ChangedWithin fs fs' places)
    (hchanged : ChangedAt fs' after loc) (hnode : after.node? loc = some node) :
    ChangedWithin fs after (insert loc places) where
  here := hchanged.here.trans h.here
  elsewhere other hother := by
    obtain ⟨hne, hplaces⟩ := not_or.mp hother
    rw [hchanged.elsewhere other hne, h.elsewhere other hplaces]
  directory other access hdirectory := hchanged.directory (h.directory other access hdirectory)
  kept other hsome := by
    by_cases hother : other = loc
    · simp [hother, hnode]
    · rw [hchanged.elsewhere other hother]
      exact h.kept other hsome

/-- A path that named a directory still names it. -/
theorem isDirectory (h : ChangedWithin fs fs' places) (hp : fs.isDirectory p = true) :
    fs'.isDirectory p = true := by
  obtain ⟨loc, access, hlocate, hnode⟩ := isDirectory_iff.mp hp
  have hlocate' := locate_eq_ok_of_directories h.here h.directory hlocate
  exact isDirectory_iff.mpr ⟨loc, access, hlocate', h.directory loc access hnode⟩

end ChangedWithin

end FragmentRunner.FileSystem
