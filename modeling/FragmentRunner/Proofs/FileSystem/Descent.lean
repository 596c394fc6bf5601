import FragmentRunner.Proofs.FileSystem.Changes
import FragmentRunner.Proofs.Path.Absolute

/-!
# Directories on the way down

What the creation of a directory and of those above it does below a directory that there is. The
recursion goes up one parent after the other, and a path has parents all the way up to the root or
the current directory. It goes up only while the way is missing, though, and the way to the
directory that there is is not: `OnTheWay` is what all paths that it comes to have in common.

* `walk_down`: without double dots, a walk goes down.
* `OnTheWay.parent` and `createDirectory_notFound`: the recursion stops below the directory.
* `ensureFirst_added`: it only adds directories between that directory and the end of the way.
-/

namespace FragmentRunner.FileSystem

variable {fs fs' fs'' : FileSystem} {start dir loc : Location} {steps names : List Name}
  {directory p : Path} {places : Set Location}

/-! ## Walking down -/

/-- A walk without double dots leads down, by the names among its steps. -/
theorem walk_down (hup : Path.up ∉ steps) (h : fs.walk start steps = .ok loc) :
    loc = start ++ steps.filter fun step => step ≠ ['.'] := by
  induction steps generalizing start with
  | nil => simpa [walk] using h.symm
  | cons step steps ih =>
    obtain ⟨hstep, hsteps⟩ := not_or.mp (mt List.mem_cons.mpr hup)
    obtain ⟨-, -, hrest⟩ := walk_cons_eq_ok_iff.mp h
    rw [ih hsteps hrest, next]
    by_cases hdot : step = ['.']
    · rw [if_pos hdot, List.filter_cons_of_neg (by simp [hdot])]
    · rw [if_neg hdot, if_neg (Ne.symm hstep), List.filter_cons_of_pos (by simp [hdot]),
        List.append_assoc, List.singleton_append]

/-- A walk by names alone leads down by all of them. -/
theorem walk_names (hup : Path.up ∉ names) (hdot : ['.'] ∉ names)
    (h : fs.walk start names = .ok loc) : loc = start ++ names := by
  have hnames : names.filter (fun step => step ≠ ['.']) = names :=
    List.filter_eq_self.mpr fun step hmem => by simpa using ne_of_mem_of_not_mem hmem hdot
  rw [walk_down hup h, hnames]

/-- A walk that goes on goes on from a directory. -/
theorem exists_directory_of_walk (hne : steps ≠ []) (h : fs.walk start steps = .ok loc) :
    ∃ access, fs.node? start = some (.directory access) := by
  obtain ⟨step, rest, rfl⟩ := List.exists_cons_of_ne_nil hne
  obtain ⟨⟨access, hnode, -⟩, -⟩ := walk_cons_eq_ok_iff.mp h
  exact ⟨access, hnode⟩

/-- Dots and then a single name are looked up in a directory, if that can be passed, whether or not
something of this name is there. -/
theorem walk_dots_name_ne_notFound {access : Access} {name : Name}
    (hdots : ∀ step ∈ steps, step = ['.']) (hnode : fs.node? dir = some (.directory access)) :
    fs.walk dir (steps ++ [name]) ≠ .error .notFound := by
  by_cases hopen : access = .closed
  · -- The first step fails for another cause.
    obtain ⟨step, rest, hsteps⟩ := List.exists_cons_of_ne_nil (List.concat_ne_nil name steps)
    simp [hsteps, walk, hnode, hopen]
  · rw [walk_append, walk_dots_of_passable hdots ⟨access, hnode, hopen⟩]
    simp only [Except.bind, walk, hnode, if_neg hopen]
    split_ifs <;> simp

/-- Dots are followed in a directory, if that can be passed. -/
theorem walk_dots_ne_notFound {access : Access} (hdots : ∀ step ∈ steps, step = ['.'])
    (hnode : fs.node? dir = some (.directory access)) : fs.walk dir steps ≠ .error .notFound := by
  rcases List.eq_nil_or_concat steps with rfl | ⟨front, last, rfl⟩
  · simp [walk]
  · rw [List.concat_eq_append] at hdots ⊢
    exact walk_dots_name_ne_notFound (fun step hmem => hdots step (by simp [hmem])) hnode

/-! ## Between two locations -/

/-- The locations that `names` lead past, one after the other, below `dir`. -/
def between (dir : Location) (names : List Name) : Set Location :=
  {loc | ∃ front rest, names = front ++ rest ∧ front ≠ [] ∧ rest ≠ [] ∧ loc = dir ++ front}

/-- On the way to where a walk led there are directories. -/
theorem directory_between (hup : Path.up ∉ names) (hdot : ['.'] ∉ names)
    (h : fs.walk dir names = .ok loc) {mid : Location} (hmid : mid ∈ between dir names) :
    ∃ access, fs.node? mid = some (.directory access) := by
  obtain ⟨front, rest, rfl, -, hrest, rfl⟩ := hmid
  -- The walk passes the location, and what is left of it goes on from there.
  obtain ⟨mid, hfront, hwalk⟩ := walk_append_eq_ok h
  obtain rfl := walk_names (fun hmem => hup (List.mem_append_left rest hmem))
    (fun hmem => hdot (List.mem_append_left rest hmem)) hfront
  exact exists_directory_of_walk hrest hwalk

/-- `fs'` is `fs` with directories at some of the `places` where nothing was. -/
structure DirectoriesAdded (fs fs' : FileSystem) (places : Set Location) : Prop where
  here : fs'.here = fs.here
  node : ∀ loc, fs'.node? loc = fs.node? loc ∨
    loc ∈ places ∧ fs.node? loc = none ∧ fs'.node? loc = some (.directory .full)

namespace DirectoriesAdded

/-- No directory was added. -/
theorem refl (fs : FileSystem) : DirectoriesAdded fs fs places :=
  ⟨rfl, fun _ => .inl rfl⟩

/-- More directories are added. -/
theorem trans (h : DirectoriesAdded fs fs' places) (h' : DirectoriesAdded fs' fs'' places) :
    DirectoriesAdded fs fs'' places where
  here := h'.here.trans h.here
  node loc := by
    rcases h'.node loc with hsame | ⟨hmem, hvacant, hadded⟩
    · rw [hsame]
      exact h.node loc
    · rcases h.node loc with hsame | ⟨-, -, hbefore⟩
      · exact .inr ⟨hmem, hsame ▸ hvacant, hadded⟩
      · rw [hvacant] at hbefore
        cases hbefore

/-- Every directory stays. -/
theorem keeps (h : DirectoriesAdded fs fs' places) {access : Access}
    (hnode : fs.node? loc = some (.directory access)) :
    fs'.node? loc = some (.directory access) := by
  rcases h.node loc with hsame | ⟨-, hvacant, -⟩
  · rw [hsame, hnode]
  · rw [hvacant] at hnode
    cases hnode

/-- A walk leads where it led. -/
theorem walk (h : DirectoriesAdded fs fs' places) (hwalk : fs.walk start steps = .ok loc) :
    fs'.walk start steps = .ok loc :=
  walk_eq_ok_of_directories (fun _ _ hnode => h.keeps hnode) hwalk

/-- One directory is added. -/
theorem of_createDirectory (hcreate : fs.createDirectory p = .ok fs')
    (hplace : ∀ loc, fs.locate p = .ok loc → fs.node? loc = none → loc ∈ places) :
    DirectoriesAdded fs fs' places := by
  obtain ⟨place, hlocate, hvacant, hchanged, hnode, -⟩ := createDirectory_eq_ok hcreate
  refine ⟨hchanged.here, fun loc => ?_⟩
  by_cases hloc : loc = place
  · subst hloc
    exact .inr ⟨hplace loc hlocate hvacant, hvacant, hnode⟩
  · exact .inl (hchanged.elsewhere loc hloc)

end DirectoriesAdded

/-! ## The paths that directories are created at -/

/-- `p` is spelled by the directory and then leads down, past some of the names. Only if it leads
past none does it have a dot at its end. -/
structure OnTheWay (directory : Path) (names : List Name) (p : Path) : Prop where
  ne_nil : p.chars ≠ []
  isAbsolute_eq : p.isAbsolute = directory.isAbsolute
  exists_steps : ∃ down rest, p.steps = directory.steps ++ down ∧ Path.up ∉ down ∧
    names = (down.filter fun step => step ≠ ['.']) ++ rest ∧ rest ≠ [] ∧
    (down.getLast? = some ['.'] → ∀ step ∈ down, step = ['.'])

/-- Single dots are no names. -/
theorem filter_of_dots (h : ∀ step ∈ steps, step = ['.']) :
    (steps.filter fun step => step ≠ ['.']) = [] :=
  List.filter_eq_nil_iff.mpr fun step hmem => by simp [h step hmem]

/-- Steps that do not end with a dot, unless all are dots, are dots or end with a name. -/
theorem dots_or_concat (h : steps.getLast? = some ['.'] → ∀ step ∈ steps, step = ['.']) :
    (∀ step ∈ steps, step = ['.']) ∨ ∃ front name, steps = front ++ [name] ∧ name ≠ ['.'] := by
  rcases List.eq_nil_or_concat steps with rfl | ⟨front, name, rfl⟩
  · exact .inl fun _ hmem => (List.not_mem_nil hmem).elim
  · rw [List.concat_eq_append] at h ⊢
    by_cases hdot : name = ['.']
    · exact .inl (h (by rw [List.getLast?_concat, hdot]))
    · exact .inr ⟨front, name, rfl, hdot⟩

/-- The directory that `directory` leads to, `dir`, is one. -/
structure LeadsTo (fs : FileSystem) (directory : Path) (dir : Location) : Prop where
  walk : fs.walk (fs.startOf directory) directory.steps = .ok dir
  node : ∃ access, fs.node? dir = some (.directory access)

/-- A directory is still found after others were added. -/
theorem LeadsTo.added (h : fs.LeadsTo directory dir) (hadded : DirectoriesAdded fs fs' places) :
    fs'.LeadsTo directory dir := by
  obtain ⟨access, hnode⟩ := h.node
  refine ⟨?_, access, hadded.keeps hnode⟩
  rw [startOf, hadded.here]
  exact hadded.walk h.walk

namespace OnTheWay

/-- What is on the way to a file below a directory, and where the recursion begins: at the parent
that the path of the file has in the directory. -/
theorem of_parent {relative parent : Path} (hdirectory : directory.chars ≠ [])
    (hrelative : relative.isAbsolute = false) (hup : Path.up ∉ relative.names)
    (hnames : relative.names ≠ []) (hparent : relative.parent? = some parent)
    (hne : parent.chars ≠ []) : OnTheWay directory relative.names (directory.join parent) := by
  rw [Path.names_eq_filter_steps] at hup hnames ⊢
  -- The parent lacks the last name of the path, so the names of the parent are not all of them.
  obtain ⟨step, hstep⟩ := List.exists_mem_of_ne_nil _ hnames
  obtain ⟨found, dots, name, more, hfound, hsteps, hname, hdots, habsolute, hlast⟩ :=
    Path.exists_parent (p := relative) ⟨step, by simpa using hstep⟩
  obtain rfl := Option.some.inj (hfound.symm.trans hparent)
  rw [hrelative] at habsolute
  refine ⟨?_, Path.isAbsolute_join_relative hdirectory habsolute, found.steps, name :: [],
    Path.steps_join_relative directory habsolute, ?_, ?_, List.cons_ne_nil _ _, ?_⟩
  · rw [Path.chars_join_relative directory habsolute]
    exact List.append_ne_nil_of_right_ne_nil _ hne
  · intro hmem
    refine hup (List.mem_filter.mpr ⟨?_, by decide⟩)
    rw [hsteps]
    simp [hmem]
  · rw [hsteps, List.filter_append, List.filter_append, List.filter_cons_of_pos (by simp [hname]),
      filter_of_dots fun step hmem => hdots step (List.mem_append_left more hmem),
      filter_of_dots fun step hmem => hdots step (List.mem_append_right dots hmem),
      List.append_nil]
  · intro hdot
    simp [hlast hdot]

/-- The location of such a path is on the way, or it is the directory. -/
theorem locate_eq (h : OnTheWay directory names p) (hdir : fs.LeadsTo directory dir)
    (hlocate : fs.locate p = .ok loc) : loc = dir ∨ loc ∈ between dir names := by
  obtain ⟨down, rest, hsteps, hup, hnames, hrest, -⟩ := h.exists_steps
  obtain ⟨-, hwalk⟩ := locate_eq_ok_iff.mp hlocate
  rw [hsteps, startOf, h.isAbsolute_eq, ← startOf, walk_append, hdir.walk] at hwalk
  have hloc := walk_down hup hwalk
  -- Dots alone lead to the directory itself.
  by_cases hfront : (down.filter fun step => step ≠ ['.']) = []
  · left
    rw [hloc, hfront, List.append_nil]
  · exact .inr ⟨_, rest, hnames, hfront, hrest, hloc⟩

/-- A directory that is created at such a path is added on the way. -/
theorem createDirectory_added (h : OnTheWay directory names p) (hdir : fs.LeadsTo directory dir)
    (hcreate : fs.createDirectory p = .ok fs') : DirectoriesAdded fs fs' (between dir names) := by
  refine .of_createDirectory hcreate fun loc hlocate hvacant => ?_
  refine (h.locate_eq hdir hlocate).resolve_left ?_
  -- The directory itself is there already.
  rintro rfl
  obtain ⟨access, hnode⟩ := hdir.node
  rw [hvacant] at hnode
  cases hnode

end OnTheWay

/-- A directory cannot be created for want of a way to it only if the walk there fails. -/
theorem walk_of_createDirectory_notFound (hne : p.chars ≠ [])
    (h : fs.createDirectory p = .error .notFound) :
    fs.walk (fs.startOf p) p.steps = .error .notFound := by
  rw [createDirectory, locate] at h
  cases hcheck : checkPath p with
  | error e =>
    -- A path that is spelled at all is refused for other reasons.
    simp only [hcheck, bind, Except.bind, Except.error.injEq] at h
    subst h
    simp only [checkPath, List.isEmpty_iff, hne, if_false] at hcheck
    split_ifs at hcheck <;> cases hcheck
  | ok u =>
    cases hwalk : fs.walk (fs.startOf p) p.steps with
    | error e => simpa [hcheck, hwalk, bind, Except.bind] using h
    | ok loc =>
      simp only [hcheck, hwalk, bind, Except.bind] at h
      split at h
      · cases h
      · rw [addAt] at h
        split at h <;> cases h

namespace OnTheWay

/-- If the way to such a path is missing, the path leads past a name that it does not end with. -/
theorem exists_concat (h : OnTheWay directory names p) (hdir : fs.LeadsTo directory dir)
    (hcreate : fs.createDirectory p = .error .notFound) :
    ∃ front name rest, p.steps = directory.steps ++ (front ++ [name]) ∧ Path.up ∉ front ∧
      name ≠ ['.'] ∧ names = (front.filter fun step => step ≠ ['.']) ++ name :: rest ∧
      ∃ step ∈ front, step ≠ ['.'] := by
  have hwalk := walk_of_createDirectory_notFound h.ne_nil hcreate
  obtain ⟨down, rest, hsteps, hup, hnames, -, hlast⟩ := h.exists_steps
  obtain ⟨access, hnode⟩ := hdir.node
  rw [hsteps, startOf, h.isAbsolute_eq, ← startOf, walk_append, hdir.walk, Except.bind] at hwalk
  rcases dots_or_concat hlast with hdots | ⟨front, name, rfl, hname⟩
  · exact absurd hwalk (walk_dots_ne_notFound hdots hnode)
  · have hupFront : Path.up ∉ front := fun hmem => hup (List.mem_append_left _ hmem)
    refine ⟨front, name, rest, hsteps, hupFront, hname, ?_, ?_⟩
    · rw [hnames, List.filter_append, List.filter_cons_of_pos (by simp [hname]), List.filter_nil,
        List.append_assoc, List.singleton_append]
    · -- From the directory itself, a single name can be looked up.
      by_contra hfront
      have hdots : ∀ step ∈ front, step = ['.'] := fun step hmem =>
        by_contra fun hne => hfront ⟨step, hmem, hne⟩
      exact walk_dots_name_ne_notFound hdots hnode hwalk

/-- If the way to such a path is missing, its parent is on the way, too. -/
theorem parent (h : OnTheWay directory names p) (hdir : fs.LeadsTo directory dir)
    (hcreate : fs.createDirectory p = .error .notFound) {parent : Path}
    (hparent : p.parent? = some parent) : OnTheWay directory names parent := by
  obtain ⟨front, name, rest, hsteps, hup, hname, hnames, step, hmem, hstep⟩ :=
    h.exists_concat hdir hcreate
  rw [← List.append_assoc] at hsteps
  obtain ⟨found, dots, hfound, hdots, hfront, habsolute, hend⟩ :=
    Path.exists_parent_of_concat hsteps hname
  obtain rfl := Option.some.inj (hfound.symm.trans hparent)
  -- The dots that the parent lacks are not the whole way down from the directory.
  obtain ⟨down, hdown, rfl⟩ : ∃ down, found.steps = directory.steps ++ down ∧
      front = down ++ dots := by
    rcases List.append_eq_append_iff.mp hfront.symm with ⟨more, -, hrest⟩ | ⟨down, hdown, hrest⟩
    · exact absurd (hdots step (hrest ▸ List.mem_append_right more hmem)) hstep
    · exact ⟨down, hdown, hrest⟩
  have hdownStep : step ∈ down :=
    (List.mem_append.mp hmem).resolve_right fun hdot => hstep (hdots step hdot)
  have hfoundStep : step ∈ found.steps := hdown ▸ List.mem_append_right _ hdownStep
  refine ⟨?_, habsolute.trans h.isAbsolute_eq, down, name :: rest, hdown,
    fun hmem => hup (List.mem_append_left dots hmem), ?_, List.cons_ne_nil _ _, ?_⟩
  · intro hnil
    rw [Path.steps, hnil] at hfoundStep
    cases hfoundStep
  · rw [hnames, List.filter_append, filter_of_dots hdots, List.append_nil]
  · intro hdot
    -- The parent would have no other step than the dot.
    have hlast : found.steps.getLast? = some ['.'] := by
      rw [hdown, List.getLast?_append_of_ne_nil _ (List.ne_nil_of_mem hdownStep), hdot]
    rw [hend hlast] at hfoundStep
    exact absurd (List.mem_singleton.mp hfoundStep) hstep

/-- Making sure of a directory on the way adds no other; where its way is missing it adds none. -/
theorem ensureDirectory_added (h : OnTheWay directory names p) (hdir : fs.LeadsTo directory dir) :
    DirectoriesAdded fs (fs.ensureDirectory p).1 (between dir names) := by
  rw [ensureDirectory]
  split
  · next hcreate => exact h.createDirectory_added hdir hcreate
  · exact .refl fs

end OnTheWay

/-- The way to a directory is reported missing only if the directory could not be created for want
of it. -/
theorem createDirectory_of_ensureDirectory_notFound
    (h : fs.ensureDirectory p = (fs', .error .notFound)) :
    fs.createDirectory p = .error .notFound := by
  rw [ensureDirectory] at h
  split at h
  · cases h
  · next e hcreate =>
    split_ifs at h
    · cases (Prod.mk.inj h).2
    · rw [hcreate, Except.error.inj (Prod.mk.inj h).2]

/-- Creating a directory and those above it below a directory that there is adds directories on the
way down, and nothing else, whether or not it fails. -/
theorem ensureFirst_added (hdir : fs.LeadsTo directory dir) (h : OnTheWay directory names p)
    (count : Nat) :
    DirectoriesAdded fs (fs.ensureFirst (p.ancestorsUpTo count)).1 (between dir names) := by
  -- The number only bounds the recursion, which goes from each path to its parent.
  induction count generalizing p with
  | zero => exact .refl fs
  | succ count ih =>
    rw [Path.ancestorsUpTo]
    split
    · exact .refl fs
    · next parent hparent =>
      have hstep := h.ensureDirectory_added hdir
      rw [ensureFirst]
      split
      · next hmissing =>
        -- The way to `p` is missing, so the parent is below the directory, too.
        have hcreate := createDirectory_of_ensureDirectory_notFound hmissing
        have habove := ih (h.parent hdir hcreate hparent)
        split
        · next above hdone =>
          rw [hdone] at habove
          exact habove.trans (h.ensureDirectory_added (hdir.added habove))
        · exact habove
      · exact hstep

end FragmentRunner.FileSystem
