import FragmentRunner.Proofs.FileSystem.Way
import FragmentRunner.Proofs.Path.Respelling

/-!
# The current directory, seen from the root

A relative path starts at the current directory; to spell it from the root, the path of the current
directory is put before it. That can be told if the current directory is in the tree (`isRooted`),
and it leads there if the directories on the way can be passed, too (`Anchored`). Then a path names
the same whether or not it is spelled from the root, but for its length: spelled from the root it
can be longer than paths can be.

* `anchored_iff_of_isRooted`: only closed directories keep the path of a current directory that is
  in the tree from leading there.
* `absolute?_of_locate`: a path that leads somewhere can be spelled from the root.
* `locate_absolute`: where a path leads once it is spelled from the root.
* `startFound_iff`: only closed directories above the current one keep it from leading there.
-/

namespace FragmentRunner.FileSystem

variable {fs : FileSystem} {start loc above : Location} {names steps : List Name} {p : Path}

/-- The path of the current directory leads there. -/
structure Anchored (fs : FileSystem) : Prop where
  walk : fs.walk [] fs.currentDirectory.steps = .ok fs.here
  noNul : fs.currentDirectory.hasNul = false

/-! ## Names that can be spelled -/

/-- A name can be spelled if it is plain, holds no NUL and is not too long. -/
theorem isSpellable_iff {name : Name} : isSpellable name = true ↔
    Path.IsPlain name ∧ (Path.mk name).hasNul = false ∧ isTooLong name = false := by
  constructor
  · intro h
    simp only [isSpellable, Path.isIdle, Bool.and_eq_true, Bool.not_eq_true', Bool.or_eq_false_iff,
      List.isEmpty_eq_false_iff, decide_eq_false_iff_not, decide_eq_true_eq] at h
    obtain ⟨⟨⟨⟨⟨hnil, hhere⟩, hup⟩, hslash⟩, hnul⟩, hlong⟩ := h
    exact ⟨⟨hnil, hhere, hup, by simpa using hslash⟩, hnul, hlong⟩
  · rintro ⟨hplain, hnul, hlong⟩
    simp [isSpellable, hplain.isIdle_eq_false, hplain.ne_up, hplain.noSlash, hnul, hlong]

/-- A walk from plain names leads to plain names: dots lead somewhere else than to themselves. -/
theorem isPlain_of_walk (hsteps : ∀ step ∈ steps, Path.IsSegment step)
    (hstart : ∀ name ∈ start, Path.IsPlain name) (h : fs.walk start steps = .ok loc) :
    ∀ name ∈ loc, Path.IsPlain name := by
  induction steps generalizing start with
  | nil =>
    obtain rfl := Except.ok.inj h
    exact hstart
  | cons step steps ih =>
    obtain ⟨hstep, hrest⟩ := List.forall_mem_cons.mp hsteps
    obtain ⟨-, -, hnext⟩ := walk_cons_eq_ok_iff.mp h
    refine ih hrest (fun name hname => ?_) hnext
    rw [next] at hname
    split_ifs at hname with hdot hup
    · exact hstart name hname
    · exact hstart name (List.dropLast_subset start hname)
    · rcases List.mem_append.mp hname with hname | hname
      · exact hstart name hname
      · obtain rfl := List.mem_singleton.mp hname
        exact ⟨hstep.ne_nil, hdot, hup, hstep.noSlash⟩

/-- Plain names are followed as they are. -/
theorem follow_of_isPlain (hplain : ∀ name ∈ names, Path.IsPlain name) (start : Location) :
    follow start names = start ++ names := by
  induction names generalizing start with
  | nil => exact (List.append_nil start).symm
  | cons name names ih =>
    obtain ⟨hname, hnames⟩ := List.forall_mem_cons.mp hplain
    rw [follow, next_of_isPlain hname, ih hnames, List.append_assoc, List.singleton_append]

/-- The way of plain names comes by what is above its end. -/
theorem mem_dropLast_way_iff (hplain : ∀ name ∈ names, Path.IsPlain name) :
    loc ∈ (way start names).dropLast ↔
      ∃ front rest, names = front ++ rest ∧ rest ≠ [] ∧ loc = start ++ front := by
  induction names generalizing start with
  | nil => simp [way]
  | cons name names ih =>
    obtain ⟨hname, hnames⟩ := List.forall_mem_cons.mp hplain
    rw [way, List.dropLast_cons_of_ne_nil (way_ne_nil _ _), List.mem_cons, next_of_isPlain hname,
      ih hnames]
    constructor
    · rintro (rfl | ⟨front, rest, rfl, hrest, rfl⟩)
      · exact ⟨[], name :: names, rfl, List.cons_ne_nil _ _, (List.append_nil _).symm⟩
      · exact ⟨name :: front, rest, rfl, hrest, by simp⟩
    · rintro ⟨front, rest, hsplit, hrest, rfl⟩
      cases front with
      | nil => exact .inl (List.append_nil _)
      | cons first front =>
        obtain ⟨rfl, rfl⟩ := List.cons_eq_cons.mp hsplit
        exact .inr ⟨front, rest, rfl, hrest, by simp⟩

/-- The path of the current directory is spelled by its names below the root, if these are plain. -/
theorem currentDirectory_eq (hplain : ∀ name ∈ fs.here, Path.IsPlain name) :
    fs.currentDirectory = Path.root.extend fs.here := by
  have hsegments : ∀ name ∈ fs.here, Path.IsSegment name :=
    fun name hname => ⟨(hplain name hname).ne_nil, (hplain name hname).noSlash⟩
  have hroot : Path.IsStart Path.root := .inl rfl
  have hchars := Path.chars_extend hroot hsegments
  exact congrArg Path.mk hchars.symm

/-- The steps of the path of the current directory are its names, if these are plain. -/
theorem steps_currentDirectory (hplain : ∀ name ∈ fs.here, Path.IsPlain name) :
    fs.currentDirectory.steps = fs.here := by
  rw [currentDirectory_eq hplain]
  exact Path.steps_extend Path.root
    fun name hname => ⟨(hplain name hname).ne_nil, (hplain name hname).noSlash⟩

/-- The path of the current directory holds no NUL if its names can be spelled. -/
theorem hasNul_currentDirectory (hspell : ∀ name ∈ fs.here, isSpellable name = true) :
    fs.currentDirectory.hasNul = false := by
  have hplain : ∀ name ∈ fs.here, Path.IsPlain name :=
    fun name hname => (isSpellable_iff.mp (hspell name hname)).1
  rw [currentDirectory_eq hplain]
  exact Path.hasNul_extend
    (fun name hname => ⟨(hplain name hname).ne_nil, (hplain name hname).noSlash⟩)
    (fun name hname => (isSpellable_iff.mp (hspell name hname)).2.1) rfl

/-! ## The way from the root -/

/-- The current directory is reached by plain names. -/
theorem Anchored.isPlain (h : fs.Anchored) : ∀ name ∈ fs.here, Path.IsPlain name := by
  refine isPlain_of_walk (fun step hstep => ?_) (by simp) h.walk
  obtain ⟨hmem, hne⟩ := List.mem_filter.mp hstep
  exact ⟨by simpa using hne, Path.noSlash_of_mem_segments hmem⟩

/-- The path of the current directory leads there if its names can be spelled and the directories
above it can be passed. -/
theorem anchored_iff : fs.Anchored ↔ (∀ name ∈ fs.here, isSpellable name = true) ∧
    ∀ above, above <+: fs.here → above ≠ fs.here → fs.Passable above := by
  constructor
  · intro h
    have hplain := h.isPlain
    have hwalk := h.walk
    rw [steps_currentDirectory hplain, walk_eq_ok_iff] at hwalk
    obtain ⟨hpass, hshort, -⟩ := hwalk
    refine ⟨fun name hname => isSpellable_iff.mpr ⟨hplain name hname, ?_, hshort name hname⟩, ?_⟩
    · refine Path.hasNul_of_mem_names h.noNul ?_
      rw [Path.names_eq_filter_steps, steps_currentDirectory hplain]
      exact List.mem_filter.mpr ⟨hname, by simpa using (hplain name hname).ne_here⟩
    · rintro above ⟨rest, hrest⟩ hne
      refine hpass above ((mem_dropLast_way_iff hplain).mpr ⟨above, rest, hrest.symm, ?_, rfl⟩)
      rintro rfl
      exact hne (by simpa using hrest)
  · rintro ⟨hspell, hpass⟩
    have hplain : ∀ name ∈ fs.here, Path.IsPlain name :=
      fun name hname => (isSpellable_iff.mp (hspell name hname)).1
    refine ⟨?_, hasNul_currentDirectory hspell⟩
    rw [steps_currentDirectory hplain, walk_eq_ok_iff]
    refine ⟨fun place hplace => ?_, fun name hname => (isSpellable_iff.mp (hspell name hname)).2.2,
      follow_of_isPlain hplain []⟩
    obtain ⟨front, rest, hsplit, hrest, rfl⟩ := (mem_dropLast_way_iff hplain).mp hplace
    refine hpass _ ⟨rest, hsplit.symm⟩ fun heq => hrest ?_
    simpa [← heq] using hsplit

/-- The current directory is in the tree if its names can be spelled and there are directories all
the way down to it. -/
theorem isRooted_iff : fs.isRooted = true ↔ (∀ name ∈ fs.here, isSpellable name = true) ∧
    ∀ above, above <+: fs.here → ∃ access, fs.node? above = some (.directory access) := by
  have hdirectory : ∀ loc, (fs.node? loc).any Node.isDirectory = true ↔
      ∃ access, fs.node? loc = some (.directory access) := by
    intro loc
    rcases fs.node? loc with _ | ⟨access⟩ | ⟨content, executable⟩ <;> simp [Node.isDirectory]
  rw [isRooted, Bool.and_eq_true, List.all_eq_true, List.all_eq_true]
  refine and_congr_right fun _ => ?_
  simp only [List.mem_range, hdirectory, Nat.lt_succ_iff]
  constructor
  · intro h above hprefix
    rw [List.prefix_iff_eq_take.mp hprefix]
    exact h _ hprefix.length_le
  · exact fun h depth _ => h _ (List.take_prefix depth fs.here)

/-- A current directory that is in the tree has plain names only. -/
theorem isPlain_of_isRooted (h : fs.isRooted = true) : ∀ name ∈ fs.here, Path.IsPlain name :=
  fun name hname => (isSpellable_iff.mp ((isRooted_iff.mp h).1 name hname)).1

/-- The path of a current directory that is in the tree leads there or nowhere. -/
theorem anchored_of_walk (hrooted : fs.isRooted = true)
    (h : fs.walk [] fs.currentDirectory.steps = .ok loc) : fs.Anchored := by
  have hplain := isPlain_of_isRooted hrooted
  have hfollow := (walk_eq_ok_iff.mp h).2.2
  rw [steps_currentDirectory hplain, follow_of_isPlain hplain, List.nil_append] at hfollow
  exact ⟨hfollow ▸ h, hasNul_currentDirectory (isRooted_iff.mp hrooted).1⟩

/-- Only a closed directory keeps the path of a current directory that is in the tree from leading
there. -/
theorem anchored_iff_of_isRooted (h : fs.isRooted = true) : fs.Anchored ↔
    ∀ above, above <+: fs.here → above ≠ fs.here → fs.node? above ≠ some (.directory .closed) := by
  obtain ⟨hspell, hdirectories⟩ := isRooted_iff.mp h
  rw [anchored_iff, and_iff_right hspell]
  refine forall_congr' fun above => forall_congr' fun hprefix => forall_congr' fun _ => ?_
  obtain ⟨access, hnode⟩ := hdirectories above hprefix
  rw [passable_iff hnode, hnode]
  simp

/-- Where a relative path leads somewhere, the current directory is in the tree if its path leads
there. -/
theorem Anchored.isRooted (h : fs.Anchored) (hrelative : p.isAbsolute = false)
    (hlocate : fs.locate p = .ok loc) : fs.isRooted = true := by
  obtain ⟨hspell, hpass⟩ := anchored_iff.mp h
  refine isRooted_iff.mpr ⟨hspell, fun above hprefix => ?_⟩
  by_cases hhere : above = fs.here
  · obtain ⟨hcheck, hwalk⟩ := locate_eq_ok_iff.mp hlocate
    obtain ⟨-, hne, -⟩ := checkPath_eq_ok_iff.mp hcheck
    obtain ⟨step, rest, hsteps⟩ := List.exists_cons_of_ne_nil (Path.steps_ne_nil hne hrelative)
    rw [hsteps, startOf, hrelative] at hwalk
    obtain ⟨⟨access, hnode, -⟩, -⟩ := walk_cons_eq_ok_iff.mp hwalk
    exact ⟨access, hhere ▸ hnode⟩
  · obtain ⟨access, hnode, -⟩ := hpass above hprefix hhere
    exact ⟨access, hnode⟩

/-- A path that leads somewhere can be spelled from the root if the path of the current directory
leads there, or is not needed. -/
theorem absolute?_of_locate (hanchored : p.isAbsolute = false → fs.Anchored)
    (h : fs.locate p = .ok loc) :
    fs.absolute? p = some (Path.absolute fs.currentDirectory p) := by
  rw [absolute?]
  cases habsolute : p.isAbsolute with
  | true => rfl
  | false => rw [(hanchored habsolute).isRooted habsolute h, Bool.or_true, if_pos rfl]

/-! ## Paths that are spelled from the root -/

/-- An absolute path is not empty. -/
theorem ne_nil_of_isAbsolute (h : p.isAbsolute = true) : p.chars ≠ [] := by
  intro hempty
  simp [Path.isAbsolute, hempty] at h

/-- The steps of a path that leads somewhere lead there from the root, too, once it is spelled from
there. -/
theorem walk_absolute (hanchored : p.isAbsolute = false → fs.Anchored)
    (h : fs.locate p = .ok loc) :
    fs.walk [] (Path.absolute fs.currentDirectory p).steps = .ok loc := by
  obtain ⟨-, hwalk⟩ := locate_eq_ok_iff.mp h
  have hdots := walk_filter_dots hwalk
  rw [Path.steps_absolute]
  cases habsolute : p.isAbsolute with
  | true =>
    rw [startOf, habsolute] at hdots
    simpa using hdots
  | false =>
    -- First comes the way to the current directory, where the path starts.
    rw [startOf, habsolute] at hdots
    rw [if_neg Bool.false_ne_true, walk_append, (hanchored habsolute).walk]
    exact hdots

/-- A path that leads somewhere leads there when it is spelled from the root, unless it is too long
then. -/
theorem locate_absolute (hanchored : p.isAbsolute = false → fs.Anchored)
    (h : fs.locate p = .ok loc) :
    fs.locate (Path.absolute fs.currentDirectory p) =
      if pathLimit < (Path.absolute fs.currentDirectory p).byteSize then .error .nameTooLong
      else .ok loc := by
  obtain ⟨hcheck, -⟩ := locate_eq_ok_iff.mp h
  have habsolute : (Path.absolute fs.currentDirectory p).isAbsolute = true :=
    Path.isAbsolute_absolute rfl
  have hnul := Path.hasNul_absolute (fun hrelative => (hanchored hrelative).noNul)
    (checkPath_eq_ok_iff.mp hcheck).1
  have hempty := ne_nil_of_isAbsolute habsolute
  have hwalk := walk_absolute hanchored h
  by_cases hlong : pathLimit < (Path.absolute fs.currentDirectory p).byteSize
  · rw [if_pos hlong]
    exact locate_of_tooLong hnul hempty hlong
  · rw [if_neg hlong, locate_eq_ok_iff, startOf, habsolute]
    exact ⟨checkPath_eq_ok_iff.mpr ⟨hnul, hempty, Nat.le_of_not_lt hlong⟩, hwalk⟩

/-- Where a path starts can be reached from the root, as far as that is in the way of its being
spelled from there: no directory above the current one is closed. For an absolute path this does not
matter, nor for one that cannot be spelled from the root. -/
def StartFound (fs : FileSystem) (p : Path) : Prop :=
  p.isAbsolute = false → fs.isRooted = true →
    ∀ above, above <+: fs.here → above ≠ fs.here → fs.node? above ≠ some (.directory .closed)

/-- The start of a path can be reached from the root if the path of the current directory leads
there. -/
theorem startFound_iff {q : Path} (h : fs.absolute? p = some q) :
    fs.StartFound p ↔ (p.isAbsolute = false → fs.Anchored) := by
  rw [StartFound]
  refine forall_congr' fun hrelative => ?_
  obtain ⟨hrooted, -⟩ : fs.isRooted = true ∧ Path.absolute fs.currentDirectory p = q := by
    simpa [absolute?, hrelative] using h
  rw [anchored_iff_of_isRooted hrooted, forall_prop_of_true hrooted]

/-- If the start of a path cannot be reached from the root, neither can what the path names. -/
theorem startFound_of_walk_absolute (h : fs.walk [] (Path.absolute fs.currentDirectory p).steps =
    .ok loc) : fs.StartFound p := by
  intro hrelative hrooted
  rw [Path.steps_absolute, hrelative, if_neg Bool.false_ne_true] at h
  obtain ⟨mid, hmid, -⟩ := walk_append_eq_ok h
  exact (anchored_iff_of_isRooted hrooted).mp (anchored_of_walk hrooted hmid)

/-- The directory that a file is made up in leads where the path leads that it was given by. -/
theorem walk_of_directoryFor {found : Path} (h : fs.directoryFor p = .ok found)
    (hwalk : fs.walk (fs.startOf found) found.steps = .ok loc) :
    fs.walk (fs.startOf p) p.steps = .ok loc := by
  rw [directoryFor] at h
  split_ifs at h with habsolute hrooted
  · obtain rfl := Except.ok.inj h
    exact hwalk
  · obtain rfl := Except.ok.inj h
    have hrelative : p.isAbsolute = false := by simpa using habsolute
    have hplain := isPlain_of_isRooted hrooted
    -- First comes the way to the current directory, where the path starts.
    rw [startOf, Path.isAbsolute_join_of_isAbsolute rfl, if_pos rfl,
      Path.steps_join_relative _ hrelative, steps_currentDirectory hplain] at hwalk
    obtain ⟨mid, hmid, hrest⟩ := walk_append_eq_ok hwalk
    obtain ⟨-, -, hhere⟩ := walk_eq_ok_iff.mp hmid
    rw [follow_of_isPlain hplain, List.nil_append] at hhere
    rw [startOf, hrelative, if_neg Bool.false_ne_true, hhere]
    exact hrest

end FragmentRunner.FileSystem
