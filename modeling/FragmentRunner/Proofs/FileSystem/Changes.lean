import FragmentRunner.FileSystem.Operations
import FragmentRunner.Proofs.Path.Components

/-!
# What a change of one file leaves alone

Every file operation of the program puts one node where no directory was. `ChangedAt` says that of
two file systems, and everything else follows from it: paths that led somewhere still lead there,
and what they name is as before unless they lead to that one place.

* `write_eq_ok` and `createUnique_eq_ok`: what a file operation did if it succeeded.
* `ChangedAt.status_eq`: what names another location is as before.
* `WrittenAt.content_eq`: what was written is read back.
* `removeFile_of_createFile`: a new file that is removed again leaves nothing behind.
-/

namespace FragmentRunner.FileSystem

variable {fs fs' : FileSystem} {loc other : Location} {p q : Path} {content : Content}

/-! ## Walking -/

/-- A plain name leads down. -/
theorem next_of_isPlain {name : Name} (hname : Path.IsPlain name) (loc : Location) :
    next loc name = loc ++ [name] := by
  rw [next, if_neg hname.ne_here, if_neg hname.ne_up]

/-- What stands at `loc` is a directory that paths can lead through. -/
def Passable (fs : FileSystem) (loc : Location) : Prop :=
  ∃ access, fs.node? loc = some (.directory access) ∧ access ≠ .closed

/-- A directory that is not closed can be passed. -/
theorem passable_iff {access : Access} (hnode : fs.node? loc = some (.directory access)) :
    fs.Passable loc ↔ access ≠ .closed := by
  constructor
  · rintro ⟨other, hother, hopen⟩
    obtain rfl := Node.directory.inj (Option.some.inj (hnode.symm.trans hother))
    exact hopen
  · exact fun hopen => ⟨access, hnode, hopen⟩

/-- A directory that can be passed can still be passed where the directories are kept. -/
theorem Passable.mono (h : fs.Passable loc)
    (hkeeps : ∀ loc access, fs.node? loc = some (.directory access) →
      fs'.node? loc = some (.directory access)) : fs'.Passable loc := by
  obtain ⟨access, hnode, hopen⟩ := h
  exact ⟨access, hkeeps loc access hnode, hopen⟩

/-- A walk takes a step from a directory that can be passed, unless the step is too long. -/
theorem walk_cons_of_passable {step : Name} (hpass : fs.Passable loc)
    (hlong : isTooLong step = false) (rest : List Name) :
    fs.walk loc (step :: rest) = fs.walk (next loc step) rest := by
  obtain ⟨access, hnode, hopen⟩ := hpass
  rw [walk, hnode]
  simp only [if_neg hopen, hlong, Bool.false_eq_true, if_false]

/-- A walk that led somewhere took each step in this way. -/
theorem walk_cons_eq_ok_iff {start : Location} {step : Name} {rest : List Name} :
    fs.walk start (step :: rest) = .ok loc ↔
      fs.Passable start ∧ isTooLong step = false ∧ fs.walk (next start step) rest = .ok loc := by
  constructor
  · intro h
    rw [walk] at h
    split at h
    · cases h
    · cases h
    · next access hnode =>
      split_ifs at h with hclosed hlong
      exact ⟨⟨access, hnode, hclosed⟩, by simpa using hlong, h⟩
  · rintro ⟨hpass, hlong, h⟩
    rw [walk_cons_of_passable hpass hlong, h]

/-- A walk goes on where its first steps lead. -/
theorem walk_append (fs : FileSystem) (loc : Location) (steps more : List Name) :
    fs.walk loc (steps ++ more) = (fs.walk loc steps).bind fun mid => fs.walk mid more := by
  -- Each step goes on from another location, so the induction is over all of them.
  induction steps generalizing loc with
  | nil => rfl
  | cons step steps ih =>
    simp only [List.cons_append, walk]
    cases fs.node? loc with
    | none => rfl
    | some node =>
      cases node with
      | file content executable => rfl
      | directory access =>
        simp only
        split_ifs
        · rfl
        · rfl
        · exact ih (next loc step)

/-- A walk that led somewhere passed where its first steps lead. -/
theorem walk_append_eq_ok {start : Location} {steps more : List Name}
    (h : fs.walk start (steps ++ more) = .ok loc) :
    ∃ mid, fs.walk start steps = .ok mid ∧ fs.walk mid more = .ok loc := by
  rw [walk_append] at h
  cases hmid : fs.walk start steps with
  | error e => simp [hmid, Except.bind] at h
  | ok mid => exact ⟨mid, rfl, by simpa [hmid, Except.bind] using h⟩

/-- A walk that takes only single dots goes nowhere. -/
theorem walk_dots {start : Location} {dots : List Name} (hdots : ∀ step ∈ dots, step = ['.'])
    (h : fs.walk start dots = .ok loc) : loc = start := by
  induction dots with
  | nil => simpa [walk] using h.symm
  | cons step dots ih =>
    obtain ⟨rfl, hrest⟩ := List.forall_mem_cons.mp hdots
    exact ih hrest (walk_cons_eq_ok_iff.mp h).2.2

/-- Single dots lead from a directory that can be passed to itself. -/
theorem walk_dots_of_passable {dots : List Name} (hdots : ∀ step ∈ dots, step = ['.'])
    (hpass : fs.Passable loc) : fs.walk loc dots = .ok loc := by
  induction dots with
  | nil => rfl
  | cons step dots ih =>
    obtain ⟨rfl, hrest⟩ := List.forall_mem_cons.mp hdots
    exact walk_cons_eq_ok_iff.mpr ⟨hpass, by decide, ih hrest⟩

/-- A walk leads where it led if its single dots are left out. -/
theorem walk_filter_dots {start : Location} {steps : List Name}
    (h : fs.walk start steps = .ok loc) :
    fs.walk start (steps.filter fun step => step ≠ ['.']) = .ok loc := by
  induction steps generalizing start with
  | nil => exact h
  | cons step steps ih =>
    obtain ⟨hpass, hlong, hrest⟩ := walk_cons_eq_ok_iff.mp h
    by_cases hdot : step = ['.']
    · rw [List.filter_cons_of_neg (by simp [hdot])]
      rw [next, if_pos hdot] at hrest
      exact ih hrest
    · rw [List.filter_cons_of_pos (by simp [hdot])]
      exact walk_cons_eq_ok_iff.mpr ⟨hpass, hlong, ih hrest⟩

/-- A plain name leads down from a directory that can be passed. -/
theorem walk_plain_eq_ok_iff {start : Location} {name : Name} (hname : Path.IsPlain name) :
    fs.walk start [name] = .ok loc ↔
      fs.Passable start ∧ isTooLong name = false ∧ loc = start ++ [name] := by
  rw [walk_cons_eq_ok_iff, next_of_isPlain hname, walk, Except.ok.injEq, eq_comm (a := loc)]

/-- A path can name something if it holds no NUL, is not empty and is not too long. -/
theorem checkPath_eq_ok_iff :
    checkPath p = .ok () ↔ p.hasNul = false ∧ p.chars ≠ [] ∧ p.byteSize ≤ pathLimit := by
  rw [checkPath]
  cases hnul : p.hasNul with
  | true => simp
  | false =>
    by_cases hempty : p.chars = []
    · simp [hempty]
    · by_cases hlong : pathLimit < p.byteSize
      · simp [hempty, hlong]
      · simp [hempty, hlong, Nat.le_of_not_lt hlong]

/-- A path leads to a location if it can name something and its steps lead there. -/
theorem locate_eq_ok_iff :
    fs.locate p = .ok loc ↔ checkPath p = .ok () ∧ fs.walk (fs.startOf p) p.steps = .ok loc := by
  cases hcheck : checkPath p with
  | error e => simp [locate, hcheck, bind, Except.bind]
  | ok u => simp [locate, hcheck, bind, Except.bind]

/-- A path that is too long, and not wrong before that, is refused for its length. -/
theorem locate_of_tooLong (hnul : p.hasNul = false) (hne : p.chars ≠ [])
    (hlong : pathLimit < p.byteSize) : fs.locate p = .error .nameTooLong := by
  simp [locate, checkPath, hnul, hne, hlong, bind, Except.bind]

/-- Where a file can be written is where its path leads. -/
theorem locateFile_eq_ok (h : fs.locateFile p = .ok loc) :
    fs.locate p = .ok loc ∧ p.endsWithSlash = false := by
  rw [locate_eq_ok_iff]
  cases hcheck : checkPath p with
  | error e => simp [locateFile, hcheck, bind, Except.bind] at h
  | ok u =>
    simp only [locateFile, hcheck, bind, Except.bind] at h
    split_ifs at h with hslash
    · -- A path with a slash at its end fails with or without the way to it.
      cases hway : fs.walk (fs.startOf p) (p.steps.dropLast ++ [['.']]) <;> simp [hway] at h
    · exact ⟨⟨rfl, h⟩, by simpa using hslash⟩

/-- A file can be written where its path leads, unless the path ends with a slash. -/
theorem locateFile_of_locate (h : fs.locate p = .ok loc) (hslash : p.endsWithSlash = false) :
    fs.locateFile p = .ok loc := by
  obtain ⟨hcheck, hwalk⟩ := locate_eq_ok_iff.mp h
  simp [locateFile, hcheck, hslash, hwalk, bind, Except.bind]

/-- A path that can name nothing names no file. -/
theorem isFile_of_checkPath_error {e : IoError} (h : checkPath p = .error e) :
    fs.isFile p = false := by
  simp [isFile, status, locate, h, bind, Except.bind]

/-- A path to a plain name in a directory leads one below the directory, which can be passed. -/
theorem locate_join_eq_ok_iff {directory : Path} {name : Name} (hname : Path.IsPlain name) :
    fs.locate (directory.join ⟨name⟩) = .ok loc ↔
      checkPath (directory.join ⟨name⟩) = .ok () ∧ isTooLong name = false ∧
        ∃ above, fs.walk (fs.startOf directory) directory.steps = .ok above ∧
          fs.Passable above ∧ loc = above ++ [name] := by
  -- The name is the last step, after those of the directory.
  rw [locate_eq_ok_iff, Path.steps_join directory hname, startOf,
    Path.isAbsolute_join directory hname, ← startOf]
  refine and_congr_right fun _ => ⟨fun h => ?_, ?_⟩
  · obtain ⟨above, habove, hlast⟩ := walk_append_eq_ok h
    obtain ⟨hpass, hlong, hloc⟩ := (walk_plain_eq_ok_iff hname).mp hlast
    exact ⟨hlong, above, habove, hpass, hloc⟩
  · rintro ⟨hlong, above, habove, hpass, hloc⟩
    rw [walk_append, habove]
    exact (walk_plain_eq_ok_iff hname).mpr ⟨hpass, hlong, hloc⟩

/-- The location of a plain name in a directory is one below the directory's. -/
theorem locate_join_eq_ok {directory : Path} {name : Name} (hname : Path.IsPlain name)
    (h : fs.locate (directory.join ⟨name⟩) = .ok loc) :
    ∃ above, fs.walk (fs.startOf directory) directory.steps = .ok above ∧
      fs.Passable above ∧ loc = above ++ [name] :=
  ((locate_join_eq_ok_iff hname).mp h).2.2

/-- In a directory that can be passed, a path to a plain name leads to that name, unless one of the
two is too long. -/
theorem locate_join_iff_of_walk {directory : Path} {name : Name} {above : Location}
    (hname : Path.IsPlain name)
    (hwalk : fs.walk (fs.startOf directory) directory.steps = .ok above)
    (hpass : fs.Passable above) :
    fs.locate (directory.join ⟨name⟩) = .ok loc ↔
      checkPath (directory.join ⟨name⟩) = .ok () ∧ isTooLong name = false ∧
        loc = above ++ [name] := by
  rw [locate_join_eq_ok_iff hname, hwalk]
  simp [hpass]

/-- A path leads where a path leads that is spelled with more dots at its end. -/
theorem walk_of_dots {directory parent : Path} {dots : List Name}
    (hdots : ∀ step ∈ dots, step = ['.']) (hsteps : directory.steps = parent.steps ++ dots)
    (habsolute : parent.isAbsolute = directory.isAbsolute)
    (hwalk : fs.walk (fs.startOf directory) directory.steps = .ok loc) :
    fs.walk (fs.startOf parent) parent.steps = .ok loc := by
  rw [hsteps, startOf, ← habsolute] at hwalk
  obtain ⟨mid, hmid, hrest⟩ := walk_append_eq_ok hwalk
  rw [startOf, hmid, walk_dots hdots hrest]

/-- The parent of a path leads to the directory that the path is in, although it may be spelled
differently from the directory that the name was joined to. -/
theorem exists_parent_of_locate_join {directory : Path} {name : Name} (hname : Path.IsPlain name)
    (h : fs.locate (directory.join ⟨name⟩) = .ok loc) :
    ∃ parent above, (directory.join ⟨name⟩).parent? = some parent ∧
      fs.walk (fs.startOf directory) directory.steps = .ok above ∧
      fs.walk (fs.startOf parent) parent.steps = .ok above ∧
      fs.Passable above ∧ loc = above ++ [name] := by
  obtain ⟨parent, dots, hparent, hdots, hsteps, habsolute⟩ := Path.parent?_join directory hname
  obtain ⟨above, habove, hpass, hloc⟩ := locate_join_eq_ok hname h
  exact ⟨parent, above, hparent, habove, walk_of_dots hdots hsteps habsolute habove, hpass, hloc⟩

/-- A walk only passes through directories, so it leads where it led if these are still there. -/
theorem walk_eq_ok_of_directories {start : Location} {steps : List Name}
    (h : ∀ loc access, fs.node? loc = some (.directory access) →
      fs'.node? loc = some (.directory access))
    (hwalk : fs.walk start steps = .ok other) : fs'.walk start steps = .ok other := by
  induction steps generalizing start with
  | nil => simpa [walk] using hwalk
  | cons step steps ih =>
    -- A step that succeeded was taken from a directory, and it is taken again.
    obtain ⟨hpass, hlong, hrest⟩ := walk_cons_eq_ok_iff.mp hwalk
    exact walk_cons_eq_ok_iff.mpr ⟨hpass.mono h, hlong, ih hrest⟩

/-- A path leads where it led if the directories are still there. -/
theorem locate_eq_ok_of_directories (hhere : fs'.here = fs.here)
    (h : ∀ loc access, fs.node? loc = some (.directory access) →
      fs'.node? loc = some (.directory access))
    (hp : fs.locate p = .ok other) : fs'.locate p = .ok other := by
  obtain ⟨hcheck, hwalk⟩ := locate_eq_ok_iff.mp hp
  refine locate_eq_ok_iff.mpr ⟨hcheck, ?_⟩
  rw [startOf, hhere]
  exact walk_eq_ok_of_directories h hwalk

/-! ## Reading -/

/-- A path names what it leads to, but no file if it ends with a slash. -/
theorem status_eq_ok_iff {node : Node} : fs.status p = .ok node ↔
    ∃ loc, fs.locate p = .ok loc ∧ fs.node? loc = some node ∧
      (node.isDirectory = false → p.endsWithSlash = false) := by
  cases hlocate : fs.locate p with
  | error e => simp [status, hlocate, bind, Except.bind]
  | ok loc =>
    simp only [status, hlocate, bind, Except.bind, Except.ok.injEq, exists_eq_left']
    rcases fs.node? loc with _ | ⟨access⟩ | ⟨content, executable⟩
    · simp
    · simp only [Except.ok.injEq, Option.some.injEq]
      refine ⟨?_, And.left⟩
      rintro rfl
      simp [Node.isDirectory]
    · simp only [Option.some.injEq]
      constructor
      · intro h
        split_ifs at h with hslash
        exact ⟨Except.ok.inj h, fun _ => by simpa using hslash⟩
      · rintro ⟨rfl, hslash⟩
        simp [hslash rfl]

/-- A path names a directory if it leads to one. -/
theorem isDirectory_iff : fs.isDirectory p = true ↔
    ∃ loc access, fs.locate p = .ok loc ∧ fs.node? loc = some (.directory access) := by
  have hstatus : fs.isDirectory p = true ↔ ∃ access, fs.status p = .ok (.directory access) := by
    rw [isDirectory]
    rcases fs.status p with e | ⟨access⟩ | ⟨content, executable⟩ <;> simp
  simp only [hstatus, status_eq_ok_iff, Node.isDirectory, reduceCtorEq, false_implies, and_true]
  exact exists_comm

/-- Whether a path names a regular file is seen by what it names. -/
theorem isFile_iff_status : fs.isFile p = true ↔
    ∃ content executable, fs.status p = .ok (.file content executable) := by
  rw [isFile]
  rcases fs.status p with e | ⟨access⟩ | ⟨content, executable⟩ <;> simp

/-- A path names a regular file if it leads to one and does not end with a slash. -/
theorem isFile_iff : fs.isFile p = true ↔ ∃ loc content executable, fs.locate p = .ok loc ∧
    p.endsWithSlash = false ∧ fs.node? loc = some (.file content executable) := by
  simp only [isFile_iff_status, status_eq_ok_iff, Node.isDirectory, true_implies]
  exact ⟨fun ⟨content, executable, loc, hlocate, hnode, hslash⟩ =>
      ⟨loc, content, executable, hlocate, hslash, hnode⟩,
    fun ⟨loc, content, executable, hlocate, hslash, hnode⟩ =>
      ⟨content, executable, loc, hlocate, hnode, hslash⟩⟩

/-- What has a content is a regular file. -/
theorem isFile_of_content (h : fs.content p = .ok content) : fs.isFile p = true := by
  rw [FileSystem.content] at h
  rw [isFile]
  generalize fs.status p = found at h
  cases found with
  | error e => cases h
  | ok node =>
    cases node with
    | directory access => cases h
    | file stored executable => rfl

/-- A regular file has a content. -/
theorem exists_content_of_isFile (h : fs.isFile p = true) :
    ∃ content, fs.content p = .ok content := by
  rw [isFile] at h
  split at h
  · next stored executable hstatus => exact ⟨stored, by rw [FileSystem.content, hstatus]; rfl⟩
  · cases h

/-! ## Changes at one location -/

/-- `fs'` differs from `fs` at most in what stands at `loc`, where there was no directory. -/
structure ChangedAt (fs fs' : FileSystem) (loc : Location) : Prop where
  here : fs'.here = fs.here
  noDirectory : ∀ access, fs.node? loc ≠ some (.directory access)
  elsewhere : ∀ other, other ≠ loc → fs'.node? other = fs.node? other

namespace ChangedAt

/-- Every directory stays. -/
theorem directory (h : ChangedAt fs fs' loc) {access : Access}
    (hother : fs.node? other = some (.directory access)) :
    fs'.node? other = some (.directory access) := by
  rw [h.elsewhere other, hother]
  rintro rfl
  exact h.noDirectory access hother

/-- A path that led somewhere still leads there. -/
theorem locate_eq_ok (h : ChangedAt fs fs' loc) (hp : fs.locate p = .ok other) :
    fs'.locate p = .ok other :=
  locate_eq_ok_of_directories h.here (fun _ _ hnode => h.directory hnode) hp

/-- A path leads where it led, and nowhere else, if no directory is there afterwards either. -/
theorem locate_iff {place : Location} (h : ChangedAt fs fs' loc)
    (hfree : ∀ access, fs'.node? loc ≠ some (.directory access)) :
    fs'.locate p = .ok place ↔ fs.locate p = .ok place := by
  refine ⟨locate_eq_ok_of_directories h.here.symm fun other access hnode => ?_, h.locate_eq_ok⟩
  rw [← h.elsewhere other, hnode]
  rintro rfl
  exact hfree access hnode

/-- What a path names is as before if the path leads elsewhere. -/
theorem status_eq (h : ChangedAt fs fs' loc) (hp : fs.locate p = .ok other) (hne : other ≠ loc) :
    fs'.status p = fs.status p := by
  simp only [status, hp, h.locate_eq_ok hp, bind, Except.bind, h.elsewhere other hne]

/-- What is read under a path is as before if the path leads elsewhere. -/
theorem content_eq (h : ChangedAt fs fs' loc) (hp : fs.locate p = .ok other) (hne : other ≠ loc) :
    fs'.content p = fs.content p := by
  rw [FileSystem.content, FileSystem.content, h.status_eq hp hne]

/-- Whether a path names a file is as before if the path leads elsewhere. -/
theorem isFile_eq (h : ChangedAt fs fs' loc) (hp : fs.locate p = .ok other) (hne : other ≠ loc) :
    fs'.isFile p = fs.isFile p := by
  rw [isFile, isFile, h.status_eq hp hne]

end ChangedAt

/-- `fs'` is `fs` with `content` in the file at `p`, which is at `loc`. -/
structure WrittenAt (fs fs' : FileSystem) (p : Path) (content : Content) (loc : Location) : Prop
    extends ChangedAt fs fs' loc where
  locate_eq : fs.locate p = .ok loc
  noSlash : p.endsWithSlash = false
  file : ∃ executable, fs'.node? loc = some (.file content executable)

/-- What was written is read back. -/
theorem WrittenAt.content_eq (h : WrittenAt fs fs' p content loc) :
    fs'.content p = .ok content := by
  obtain ⟨executable, hfile⟩ := h.file
  simp [FileSystem.content, status, h.toChangedAt.locate_eq_ok h.locate_eq, bind, Except.bind,
    hfile, h.noSlash]

/-- Where a file was written there is no directory. -/
theorem WrittenAt.noDirectory_after (h : WrittenAt fs fs' p content loc) (access : Access) :
    fs'.node? loc ≠ some (.directory access) := by
  obtain ⟨executable, hfile⟩ := h.file
  simp [hfile]

/-- The root is a directory, so nothing is put there. -/
theorem ne_root_of_noDirectory (h : ∀ access, fs.node? loc ≠ some (.directory access)) :
    loc ≠ [] := by
  rintro rfl
  exact h .full (by simp [node?])

/-- What is put where no directory was is a change at that location. -/
theorem changedAt_put (h : ∀ access, fs.node? loc ≠ some (.directory access)) (node : Node) :
    ChangedAt fs (fs.put loc node) loc where
  here := rfl
  noDirectory := h
  elsewhere other hne := by rw [node?_put (ne_root_of_noDirectory h), if_neg hne]

/-- What is erased where no directory was is a change at that location. -/
theorem changedAt_erase (h : ∀ access, fs.node? loc ≠ some (.directory access)) :
    ChangedAt fs (fs.erase loc) loc where
  here := rfl
  noDirectory := h
  elsewhere other hne := by rw [node?_erase (ne_root_of_noDirectory h), if_neg hne]

/-- Nothing is found where something was erased, unless a directory was. -/
theorem node?_erase_self (h : ∀ access, fs.node? loc ≠ some (.directory access)) :
    (fs.erase loc).node? loc = none := by
  rw [node?_erase (ne_root_of_noDirectory h), if_pos rfl]

/-! ## File operations -/

/-- A file is created at a vacant location in a directory. -/
theorem addAt_eq_ok {node : Node} (hvacant : fs.node? loc = none)
    (h : fs.addAt loc node = .ok fs') : fs' = fs.put loc node ∧ ChangedAt fs fs' loc := by
  rw [addAt] at h
  split at h
  · obtain rfl := Except.ok.inj h
    exact ⟨rfl, changedAt_put (by simp [hvacant]) node⟩
  · cases h

/-- What is added is added to a directory. -/
theorem node?_above_of_addAt {node : Node} (h : fs.addAt loc node = .ok fs') :
    fs.node? loc.dropLast = some (.directory .full) := by
  rw [addAt] at h
  split at h
  · next habove => exact habove
  · cases h

/-- What is put where no directory was is found there. -/
theorem node?_put_self (h : ∀ access, fs.node? loc ≠ some (.directory access)) (node : Node) :
    (fs.put loc node).node? loc = some node := by
  rw [node?_put (ne_root_of_noDirectory h), if_pos rfl]

/-- Writing changes the one location that the path leads to. -/
theorem write_eq_ok (h : fs.write p content = .ok fs') :
    ∃ loc, WrittenAt fs fs' p content loc := by
  rw [write] at h
  cases hloc : fs.locateFile p with
  | error e => simp [hloc, bind, Except.bind] at h
  | ok loc =>
    obtain ⟨hlocate, hslash⟩ := locateFile_eq_ok hloc
    simp only [hloc, bind, Except.bind] at h
    split at h
    · cases h
    · -- A file that is there keeps its permissions.
      next old executable hnode =>
      obtain rfl := Except.ok.inj h
      have hfree : ∀ access, fs.node? loc ≠ some (.directory access) := by simp [hnode]
      exact ⟨loc, changedAt_put hfree _, hlocate, hslash, executable, node?_put_self hfree _⟩
    · next hnode =>
      obtain ⟨rfl, hchanged⟩ := addAt_eq_ok hnode h
      exact ⟨loc, hchanged, hlocate, hslash, false, node?_put_self hchanged.noDirectory _⟩

/-- A file that can be read is somewhere. -/
theorem exists_locate_of_content (h : fs.content p = .ok content) :
    ∃ loc, fs.locate p = .ok loc := by
  rw [FileSystem.content, status] at h
  cases hloc : fs.locate p with
  | error e => simp [hloc, bind, Except.bind] at h
  | ok loc => exact ⟨loc, rfl⟩

/-- What is written under a plain name is at a location of that name, so paths that end in other
names are not touched by it. -/
theorem write_join_eq_ok {directory : Path} {name : Name} (hname : Path.IsPlain name)
    (h : fs.write (directory.join ⟨name⟩) content = .ok fs') :
    ∃ loc, WrittenAt fs fs' (directory.join ⟨name⟩) content loc ∧ loc.getLast? = some name := by
  obtain ⟨loc, hwritten⟩ := write_eq_ok h
  obtain ⟨above, -, -, rfl⟩ := locate_join_eq_ok hname hwritten.locate_eq
  exact ⟨_, hwritten, List.getLast?_concat⟩

/-- A file stands where it stood after another one was written. -/
theorem isFile_of_write_join {directory : Path} {name : Name}
    (hname : Path.IsPlain name) (hwrite : fs.write (directory.join ⟨name⟩) content = .ok fs')
    (hp : fs.locate p = .ok loc) (hne : loc.getLast? ≠ some name) :
    fs'.locate p = .ok loc ∧ fs'.isFile p = fs.isFile p := by
  obtain ⟨place, hwritten, hlast⟩ := write_join_eq_ok hname hwrite
  refine ⟨hwritten.toChangedAt.locate_eq_ok hp,
    hwritten.toChangedAt.isFile_eq hp ?_⟩
  rintro rfl
  exact hne hlast

/-- A file is as before after another file was written beside it. -/
theorem content_of_write_beside {directory : Path} {name written : Name} {old new : Content}
    (hname : Path.IsPlain name) (hwritten : Path.IsPlain written) (hne : name ≠ written)
    (h : fs.write (directory.join ⟨written⟩) new = .ok fs')
    (hcontent : fs.content (directory.join ⟨name⟩) = .ok old) :
    fs'.content (directory.join ⟨name⟩) = .ok old := by
  obtain ⟨place, hchanged, hlast⟩ := write_join_eq_ok hwritten h
  obtain ⟨own, hown⟩ := exists_locate_of_content hcontent
  -- The two locations end in different names.
  obtain ⟨above, -, -, rfl⟩ := locate_join_eq_ok hname hown
  rw [hchanged.toChangedAt.content_eq hown, hcontent]
  rintro rfl
  rw [List.getLast?_concat] at hlast
  exact hne (Option.some.inj hlast)

/-- What was written can be written again. -/
theorem WrittenAt.write_again (h : WrittenAt fs fs' p content loc) (again : Content) :
    ∃ after, fs'.write p again = .ok after := by
  obtain ⟨executable, hfile⟩ := h.file
  have hloc : fs'.locateFile p = .ok loc :=
    locateFile_of_locate (h.toChangedAt.locate_eq_ok h.locate_eq) h.noSlash
  exact ⟨fs'.put loc (.file again executable), by
    simp [write, hloc, hfile, bind, Except.bind]⟩

/-- A file is created at a vacant location, and that is all that changes. -/
theorem createFile_eq_ok (h : fs.createFile p content = .ok fs') :
    ∃ loc, WrittenAt fs fs' p content loc ∧ fs.node? loc = none ∧
      fs' = fs.put loc (.file content false) := by
  rw [createFile] at h
  cases hloc : fs.locateFile p with
  | error e => simp [hloc, bind, Except.bind] at h
  | ok loc =>
    obtain ⟨hlocate, hslash⟩ := locateFile_eq_ok hloc
    simp only [hloc, bind, Except.bind] at h
    split at h
    · cases h
    · next hnode =>
      obtain ⟨rfl, hchanged⟩ := addAt_eq_ok hnode h
      exact ⟨loc, ⟨hchanged, hlocate, hslash, false, node?_put_self hchanged.noDirectory _⟩,
        hnode, rfl⟩

/-- A directory is created at a vacant location in a directory, and that is all that changes. -/
theorem createDirectory_eq_ok (h : fs.createDirectory p = .ok fs') :
    ∃ loc, fs.locate p = .ok loc ∧ fs.node? loc = none ∧ ChangedAt fs fs' loc ∧
      fs'.node? loc = some (.directory .full) ∧
      fs.node? loc.dropLast = some (.directory .full) := by
  rw [createDirectory] at h
  cases hloc : fs.locate p with
  | error e => simp [hloc, bind, Except.bind] at h
  | ok loc =>
    simp only [hloc, bind, Except.bind] at h
    split at h
    · cases h
    · next hnode =>
      have habove := node?_above_of_addAt h
      obtain ⟨rfl, hchanged⟩ := addAt_eq_ok hnode h
      exact ⟨loc, rfl, hnode, hchanged, node?_put_self hchanged.noDirectory _, habove⟩

/-- Nothing is listed under a vacant location other than the root. -/
theorem filter_of_vacant (hroot : loc ≠ []) (h : fs.node? loc = none) :
    fs.entries.filter (·.1 ≠ loc) = fs.entries := by
  rw [node?, if_neg hroot] at h
  refine List.filter_eq_self.mpr fun entry hentry => ?_
  have hkey : ¬(loc == entry.1) = true := by
    simpa using List.lookup_eq_none_iff.mp h entry hentry
  exact decide_eq_true fun heq => hkey (beq_iff_eq.mpr heq.symm)

/-- Erasing a node from where there was none before gives back the file system. -/
theorem erase_put (hroot : loc ≠ []) (h : fs.node? loc = none) (node : Node) :
    (fs.put loc node).erase loc = fs := by
  -- The list of entries is what it was, and not only its lookup.
  have hentries : (fs.put loc node).entries.filter (·.1 ≠ loc) = fs.entries := by
    rw [put, List.filter_cons_of_neg (by simp), filter_of_vacant hroot h,
      filter_of_vacant hroot h]
  rw [erase, hentries]
  rfl

/-- A file is removed where its path leads. -/
theorem removeFile_of_file {executable : Bool} (hlocate : fs.locate p = .ok loc)
    (hslash : p.endsWithSlash = false) (hnode : fs.node? loc = some (.file content executable)) :
    fs.removeFile p = fs.erase loc := by
  have hstatus : fs.status p = .ok (.file content executable) := by
    simp [status, hlocate, hnode, hslash, bind, Except.bind]
  rw [removeFile, hstatus, hlocate]

/-- A path that names no file removes none. -/
theorem removeFile_of_isFile_eq_false (h : fs.isFile p = false) : fs.removeFile p = fs := by
  rw [isFile] at h
  rw [removeFile]
  split at h
  · cases h
  · next hnone =>
    split
    · next content executable loc hstatus hlocate => exact absurd hstatus (hnone content executable)
    · rfl

/-- Removing a file takes no directory away, so a path leads where it led. -/
theorem locate_removeFile_iff {place : Location} :
    (fs.removeFile q).locate p = .ok place ↔ fs.locate p = .ok place := by
  cases hfile : fs.isFile q with
  | true =>
    obtain ⟨loc, content, executable, hlocate, hslash, hnode⟩ := isFile_iff.mp hfile
    have hfree : ∀ access, fs.node? loc ≠ some (.directory access) := by simp [hnode]
    rw [removeFile_of_file hlocate hslash hnode]
    exact (changedAt_erase hfree).locate_iff (by simp [node?_erase_self hfree])
  | false => rw [removeFile_of_isFile_eq_false hfile]

/-- A new file that is removed again leaves nothing behind. -/
theorem removeFile_of_createFile (h : fs.createFile p content = .ok fs') :
    fs'.removeFile p = fs := by
  obtain ⟨loc, hwritten, hvacant, rfl⟩ := createFile_eq_ok h
  have hlocate := hwritten.toChangedAt.locate_eq_ok hwritten.locate_eq
  rw [removeFile_of_file hlocate hwritten.noSlash (node?_put_self hwritten.noDirectory _)]
  exact erase_put (ne_root_of_noDirectory hwritten.noDirectory) hvacant _

/-- What is put at a location replaces what was put there before. -/
theorem put_put (loc : Location) (first second : Node) :
    (fs.put loc first).put loc second = fs.put loc second := by
  have hentries : ((loc, first) :: fs.entries.filter (·.1 ≠ loc)).filter (·.1 ≠ loc) =
      fs.entries.filter (·.1 ≠ loc) := by
    rw [List.filter_cons_of_neg (by simp), List.filter_filter]
    simp
  rw [put, put, hentries]
  rfl

/-- A new file that is written to is as if it had been created with what is written. -/
theorem write_of_createFile {created : FileSystem} {old : Content}
    (h : fs.createFile p old = .ok created) (content : Content) :
    ∃ after, created.write p content = .ok after ∧ fs.createFile p content = .ok after := by
  obtain ⟨loc, hwritten, hvacant, rfl⟩ := createFile_eq_ok h
  have hnode := node?_put_self hwritten.noDirectory (.file old false)
  have hloc : fs.locateFile p = .ok loc := locateFile_of_locate hwritten.locate_eq hwritten.noSlash
  have hloc' : (fs.put loc (.file old false)).locateFile p = .ok loc :=
    locateFile_of_locate (hwritten.toChangedAt.locate_eq_ok hwritten.locate_eq) hwritten.noSlash
  refine ⟨fs.put loc (.file content false), ?_, ?_⟩
  · simp [write, hloc', hnode, put_put, bind, Except.bind]
  · -- The directory lets a file be created, whatever the file holds.
    simp only [createFile, hloc, hvacant, bind, Except.bind] at h ⊢
    have habove := node?_above_of_addAt h
    simp [addAt, habove]

/-- A file that is there holds what it held after another one was created. -/
theorem content_of_createFile {created : FileSystem} {old : Content}
    (hcreate : fs.createFile p old = .ok created) (hq : fs.content q = .ok content) :
    created.content q = .ok content := by
  obtain ⟨loc, hwritten, hvacant, -⟩ := createFile_eq_ok hcreate
  obtain ⟨place, stored, executable, hlocate, -, hnode⟩ := isFile_iff.mp (isFile_of_content hq)
  rw [hwritten.toChangedAt.content_eq hlocate, hq]
  -- Nothing stood where the new file is.
  rintro rfl
  cases hvacant.symm.trans hnode

/-- What is copied to a file is written there, and the file that it is copied from may be the cause
that no more is. -/
theorem copy_of_write {source target : Path} (hsource : fs.content source = .ok content)
    (hwrite : fs.write target content.legible = .ok fs') :
    fs.copy source target =
      (fs', match content.fault? with
        | none => .ok ()
        | some cause => .error cause) := by
  simp only [copy, hsource, hwrite]
  cases content.fault? <;> rfl

/-- A file that was created under one of several paths was created under that path. -/
theorem createFirst_eq_ok {candidate : Nat → Path} {attempts tries : Nat}
    (h : fs.createFirst candidate attempts tries = .ok (p, fs')) :
    (∃ n, p = candidate n) ∧ fs.createFile p (.bytes []) = .ok fs' := by
  induction attempts generalizing tries with
  | zero => cases h
  | succ attempts ih =>
    rw [createFirst] at h
    split at h
    · next hcreate =>
      obtain ⟨rfl, rfl⟩ := Prod.mk.inj (Except.ok.inj h)
      exact ⟨⟨tries, rfl⟩, hcreate⟩
    · exact ih h
    · cases h

/-- A file under an unused name is a new file in the directory, under one of the names that are made
up. -/
theorem createUnique_eq_ok {directory : Path} {lead tail : Name}
    (h : fs.createUnique directory lead tail = .ok (p, fs')) :
    ∃ found tries, fs.directoryFor directory = .ok found ∧
      p = found.join ⟨lead ++ fs.names.letters fs.entries tries ++ tail⟩ ∧
      fs.createFile p (.bytes []) = .ok fs' := by
  rw [createUnique] at h
  cases hfound : fs.directoryFor directory with
  | error e => simp [hfound, bind, Except.bind] at h
  | ok found =>
    simp only [hfound, bind, Except.bind] at h
    obtain ⟨⟨tries, hp⟩, hcreate⟩ := createFirst_eq_ok h
    exact ⟨found, tries, rfl, hp, hcreate⟩

end FragmentRunner.FileSystem
