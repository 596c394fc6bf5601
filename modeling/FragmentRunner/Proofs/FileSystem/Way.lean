import FragmentRunner.Proofs.FileSystem.Changes
import FragmentRunner.Proofs.Path.Absolute
import Mathlib.Data.Set.Defs

/-!
# The places that a path comes by

What a path names depends on the places that its steps come by, and on nothing else: `way` lists
them, whatever stands there. Two file systems that are the same in all of them cannot be told apart
under this path.

* `status_eq_ok_iff_reaches`: a path names what it can be followed to.
* `status_congr`: only the places on the way are looked at.
* `Avoids.status_eq`: a difference that the way keeps clear of is not seen.
* `avoids_below_iff`: without double dots, a path keeps clear of a directory if it ends outside.
-/

namespace FragmentRunner.FileSystem

variable {fs fs' fs'' : FileSystem} {start dir loc : Location} {steps : List Name} {p : Path}
  {places : Set Location}

/-! ## The way of a path -/

/-- The places that `steps` come by from `start`, the first and the last one included. -/
def way (start : Location) : List Name → List Location
  | [] => [start]
  | step :: rest => start :: way (next start step) rest

/-- Steps go on where the steps before them lead. -/
theorem follow_append (start : Location) (steps more : List Name) :
    follow start (steps ++ more) = follow (follow start steps) more := by
  induction steps generalizing start with
  | nil => rfl
  | cons step steps ih => rw [List.cons_append, follow, follow, ih]

/-- The names of a path lead where its steps do, for single dots lead nowhere. -/
theorem follow_names (start : Location) (p : Path) :
    follow start p.names = follow start p.steps := by
  rw [Path.names_eq_filter_steps]
  generalize p.steps = steps
  induction steps generalizing start with
  | nil => rfl
  | cons step steps ih =>
    by_cases hdot : step = ['.']
    · rw [List.filter_cons_of_neg (by simp [hdot]), follow, next, if_pos hdot, ih]
    · rw [List.filter_cons_of_pos (by simp [hdot]), follow, follow, ih]

/-- A way ends where its steps lead. -/
theorem follow_mem_way (start : Location) (steps : List Name) :
    follow start steps ∈ way start steps := by
  induction steps generalizing start with
  | nil => exact List.mem_singleton.mpr rfl
  | cons step steps ih =>
    rw [follow, way]
    exact List.mem_cons_of_mem start (ih (next start step))

/-- Some place is on every way. -/
theorem way_ne_nil (start : Location) (steps : List Name) : way start steps ≠ [] :=
  List.ne_nil_of_mem (follow_mem_way start steps)

/-- A walk arrives if every place on the way can be passed and no step is too long; then it has
followed its steps. -/
theorem walk_eq_ok_iff : fs.walk start steps = .ok loc ↔
    (∀ place ∈ (way start steps).dropLast, fs.Passable place) ∧
      (∀ step ∈ steps, isTooLong step = false) ∧ follow start steps = loc := by
  induction steps generalizing start with
  | nil => simp [walk, follow, way]
  | cons step steps ih =>
    rw [walk_cons_eq_ok_iff, ih, way, List.dropLast_cons_of_ne_nil (way_ne_nil _ _),
      List.forall_mem_cons, List.forall_mem_cons, follow]
    tauto

/-- A path can be followed to a node: it can name something, every directory on the way can be
passed, no name is too long, and the node stands at the end. With a slash at its end a path can only
be followed to a directory. -/
structure Reaches (fs : FileSystem) (p : Path) (node : Node) : Prop where
  wellFormed : checkPath p = .ok ()
  passable : ∀ place ∈ (way (fs.startOf p) p.steps).dropLast, fs.Passable place
  short : ∀ step ∈ p.steps, isTooLong step = false
  stands : fs.node? (follow (fs.startOf p) p.steps) = some node
  noSlash : node.isDirectory = false → p.endsWithSlash = false

/-- A path names what it can be followed to. -/
theorem status_eq_ok_iff_reaches {node : Node} : fs.status p = .ok node ↔ fs.Reaches p node := by
  simp only [status_eq_ok_iff, locate_eq_ok_iff, walk_eq_ok_iff]
  constructor
  · rintro ⟨loc, ⟨hcheck, hpass, hshort, rfl⟩, hnode, hslash⟩
    exact ⟨hcheck, hpass, hshort, hnode, hslash⟩
  · rintro ⟨hcheck, hpass, hshort, hnode, hslash⟩
    exact ⟨_, ⟨hcheck, hpass, hshort, rfl⟩, hnode, hslash⟩

/-- A path names a regular file if it can be followed to one. -/
theorem isFile_iff_reaches :
    fs.isFile p = true ↔ ∃ content executable, fs.Reaches p (.file content executable) := by
  simp only [isFile_iff_status, status_eq_ok_iff_reaches]

/-- A walk looks at the places on its way only. -/
theorem walk_congr (h : ∀ place ∈ way start steps, fs'.node? place = fs.node? place) :
    fs'.walk start steps = fs.walk start steps := by
  -- A walk may break off, but as far as it comes it is on the way.
  induction steps generalizing start with
  | nil => rfl
  | cons step steps ih =>
    obtain ⟨hstart, hrest⟩ := List.forall_mem_cons.mp h
    rw [walk, walk, hstart, ih hrest]

/-- How names are made up makes no difference to where a path leads. -/
theorem locate_names (fs : FileSystem) (source : NameSource) (p : Path) :
    FileSystem.locate { fs with names := source } p = fs.locate p := by
  have hwalk : FileSystem.walk { fs with names := source } (fs.startOf p) p.steps =
      fs.walk (fs.startOf p) p.steps := walk_congr fun _ _ => rfl
  exact congrArg (checkPath p >>= ·) (funext fun _ => hwalk)

/-- What a path names depends on what stands on its way. -/
theorem status_congr (hhere : fs'.here = fs.here)
    (h : ∀ place ∈ way (fs.startOf p) p.steps, fs'.node? place = fs.node? place) :
    fs'.status p = fs.status p := by
  have hlocate : fs'.locate p = fs.locate p := by
    rw [locate, locate, startOf, hhere, ← startOf, walk_congr h]
  rw [status, status, hlocate]
  cases hloc : fs.locate p with
  | error e => rfl
  | ok loc =>
    -- The location that is looked at is the last place on the way.
    obtain ⟨-, -, hend⟩ := walk_eq_ok_iff.mp (locate_eq_ok_iff.mp hloc).2
    have hnode : fs'.node? loc = fs.node? loc := hend ▸ h _ (follow_mem_way _ _)
    simp only [bind, Except.bind, hnode]

/-! ## What a path keeps clear of -/

/-- `fs'` differs from `fs` at most in what stands at `places`. -/
structure SameOutside (fs fs' : FileSystem) (places : Set Location) : Prop where
  here : fs'.here = fs.here
  node : ∀ loc ∉ places, fs'.node? loc = fs.node? loc

namespace SameOutside

/-- A file system does not differ from itself. -/
theorem refl (fs : FileSystem) : SameOutside fs fs places :=
  ⟨rfl, fun _ _ => rfl⟩

/-- One more node is put at one of the places. -/
theorem put (h : SameOutside fs fs' places) (hroot : loc ≠ []) (hloc : loc ∈ places) (node : Node) :
    SameOutside fs (fs'.put loc node) places where
  here := h.here
  node other hother := by
    rw [node?_put hroot, if_neg (ne_of_mem_of_not_mem hloc hother).symm, h.node other hother]

end SameOutside

/-- The path comes by none of `places`. -/
def Avoids (fs : FileSystem) (p : Path) (places : Set Location) : Prop :=
  ∀ place ∈ way (fs.startOf p) p.steps, place ∉ places

/-- What differs elsewhere makes no difference to a path. -/
theorem Avoids.status_eq (hp : fs.Avoids p places) (h : SameOutside fs fs' places) :
    fs'.status p = fs.status p :=
  status_congr h.here fun place hplace => h.node place (hp place hplace)

/-- What is in a directory and further down. -/
def below (dir : Location) : Set Location :=
  {loc | dir <+: loc ∧ loc ≠ dir}

/-- What names lead to from a directory is below it. -/
theorem append_mem_below (dir : Location) {names : List Name} (h : names ≠ []) :
    dir ++ names ∈ below dir :=
  ⟨List.prefix_append dir names, fun heq => h (List.append_right_eq_self.mp heq)⟩

/-- What is below something below a directory is below the directory. -/
theorem mem_below_trans {place : Location} (hplace : place ∈ below dir) (h : place <+: loc) :
    loc ∈ below dir := by
  obtain ⟨hdir, hne⟩ := hplace
  refine ⟨hdir.trans h, ?_⟩
  rintro rfl
  exact hne (h.eq_of_length_le hdir.length_le)

/-- Without double dots, steps lead down. -/
theorem prefix_follow (hup : Path.up ∉ steps) : start <+: follow start steps := by
  induction steps generalizing start with
  | nil => exact List.prefix_rfl
  | cons step steps ih =>
    obtain ⟨hstep, hsteps⟩ := not_or.mp (mt List.mem_cons.mpr hup)
    rw [follow, next, if_neg (Ne.symm hstep)]
    split_ifs
    · exact ih hsteps
    · exact (List.prefix_append start [step]).trans (ih hsteps)

/-- Without double dots, the places on a way are those above its end. -/
theorem prefix_follow_of_mem_way (hup : Path.up ∉ steps) (h : loc ∈ way start steps) :
    loc <+: follow start steps := by
  induction steps generalizing start with
  | nil =>
    rw [List.mem_singleton.mp h]
    exact List.prefix_rfl
  | cons step steps ih =>
    rcases List.mem_cons.mp h with rfl | hrest
    · exact prefix_follow hup
    · rw [follow]
      exact ih (fun hmem => hup (List.mem_cons_of_mem step hmem)) hrest

/-- A path without double dots keeps clear of what is below a directory if it does not end there. -/
theorem avoids_below_iff (hup : Path.up ∉ p.steps) :
    fs.Avoids p (below dir) ↔ follow (fs.startOf p) p.steps ∉ below dir := by
  constructor
  · exact fun h => h _ (follow_mem_way _ _)
  · -- What is above the end of the way and below the directory would put the end below it, too.
    intro h place hplace hbelow
    exact h (mem_below_trans hbelow (prefix_follow_of_mem_way hup hplace))

end FragmentRunner.FileSystem
