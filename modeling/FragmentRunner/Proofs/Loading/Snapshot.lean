import FragmentRunner.Proofs.Loading.Lifetimes

/-!
# Loaded units as snapshots

A dynamic loader that is asked for a path which is still open does not look at the file again: it
hands back what it has mapped under that path. A unit is therefore opened from a copy under a path
of its own. While the unit is open there is a file at this path, and a new copy is made where none
is, so the paths of the units that are open are all different and the loader is never asked for one
of them again (`Faithful`). Each unit is what its library held when it was loaded, whatever became
of the library since then.

* `Faithful.performIn`: one deed in a process with such a loader.
* `KeepsAway.perform`: who writes and removes the library only keeps away from the copies.
* `units_are_snapshots`: any history of loads, calls, closings, writes and removals.
-/

namespace FragmentRunner.Loading

open FileSystem

/-- What the dynamic loader has mapped: one image for each handle that is open, under the path that
it was opened from. -/
structure Loader where
  mapped : List (Path × Image)

namespace Loader

/-- Opens an image. What is mapped under a path that is open is handed back; otherwise the file at
the path is mapped. -/
def open? (loader : Loader) (path : Path) (w : World) : Option Image :=
  (loader.mapped.lookup path).or (LoadedUnit.openStaged? path w)

/-- One more handle is open. -/
def hold (loader : Loader) (path : Path) (image : Image) : Loader :=
  ⟨loader.mapped ++ [(path, image)]⟩

/-- A handle is closed. -/
def release (loader : Loader) (path : Path) : Loader :=
  ⟨loader.mapped.eraseP (·.1 = path)⟩

end Loader

/-- A unit that is open, and what its library held when it was loaded. -/
structure Opened where
  unit : LoadedUnit
  original : Except IoError Content

/-- The world, the dynamic loader and the units that are open, in the order in which they were
loaded. -/
structure Process where
  world : World
  loader : Loader
  units : List Opened

/-- What is left of a process without its loader. -/
def Process.state (p : Process) : State :=
  ⟨p.world, p.units.map (·.unit)⟩

@[simp] theorem Process.state_world (p : Process) : p.state.world = p.world := rfl

/-- What a deed makes of a process. -/
def Deed.performIn (deed : Deed) (p : Process) : Process :=
  match deed with
  | .load library name =>
    match LoadedUnit.loadWith p.loader.open? library name p.world with
    | (.ok unit, w) =>
      { world := w
        loader := p.loader.hold unit.staged unit.image
        units := p.units ++ [⟨unit, p.world.files.content library⟩] }
    | (.error _, w) => { p with world := w }
  | .invoke number symbol =>
    match p.units[number]? with
    | some opened => { p with world := (opened.unit.invoke symbol p.world).2 }
    | none => p
  | .close number =>
    match p.units[number]? with
    | some opened =>
      -- The handle is closed before the copy is removed.
      { world := ((opened.unit.close : Effect Empty Unit) p.world).2
        loader := p.loader.release opened.unit.staged
        units := p.units.eraseIdx number }
    | none => p
  | .write .. | .remove _ | .names _ =>
    { p with world := { p.world with files := deed.byOthers p.world.files } }

/-- What a history makes of a process. -/
def performAllIn (deeds : List Deed) (p : Process) : Process :=
  deeds.foldl (fun p deed => deed.performIn p) p

/-- Of all libraries, only the one at `library` is loaded, written and removed. -/
def Deed.On (library : Path) : Deed → Prop
  | .load path _ | .write path _ | .remove path => path = library
  | .invoke .. | .close _ | .names _ => True

instance (library : Path) (deed : Deed) : Decidable (deed.On library) :=
  match deed with
  | .load path _ | .write path _ | .remove path => inferInstanceAs (Decidable (path = library))
  | .invoke .. | .close _ | .names _ => inferInstanceAs (Decidable True)

/-- What a call of the entry point `symbol` of an image comes to. -/
def callResult (image : Image) (symbol : String) : Except CallError Completion :=
  match image.status? (String.ofList (LoadedUnit.readSymbol symbol)) with
  | none => .error (.symbolNotFound symbol)
  | some status => Completion.ofStatus status

section

variable {alone : FileSystem} {s : State} {p : Process} {deed : Deed} {deeds : List Deed}
  {library copy : Path} {name : String} {w : World} {unit : LoadedUnit}

/-! ## Calls and loads -/

/-- A call depends on the image of the unit alone. -/
theorem invoke_result (unit : LoadedUnit) (symbol : String) (w : World) :
    (unit.invoke symbol w).1 = callResult unit.image symbol := by
  rw [callResult]
  cases h : unit.image.status? (String.ofList (LoadedUnit.readSymbol symbol)) with
  | none => exact (LoadedUnit.invoke_of_none h).1
  | some status => exact (LoadedUnit.invoke_of_some h).1

/-- A unit that was opened is what its library holds. -/
theorem content_of_load (h : (LoadedUnit.load library name w).1 = .ok unit) :
    w.files.content library = .ok (.image unit.image) := by
  have hends := LoadedUnit.loadEnds_load library name w
  rw [h] at hends
  generalize (LoadedUnit.load library name w).2.files = after at hends
  cases hends with
  | opened hfile _ => exact hfile

/-- A library that was staged was copied. -/
theorem exists_copyBeside_of_stage {after : World} (hfile : w.files.isFile library = true)
    (h : LoadedUnit.stage library name w = (.ok copy, after)) :
    ∃ content, LoadedUnit.copyBeside w.files library name content = .ok (copy, after.files) := by
  obtain ⟨content, hcontent⟩ := exists_content_of_isFile hfile
  cases hstaged : LoadedUnit.stagingFile w.files library name with
  | error e =>
    have hfails := (LoadedUnit.stage_of_error hstaged).1
    rw [h] at hfails
    cases hfails
  | ok staged =>
    obtain ⟨written, -, hcopied⟩ :=
      LoadedUnit.exists_copyBeside_of_stagingFile hstaged content.legible
    obtain ⟨hresult, hafter⟩ := LoadedUnit.stage_yields hcontent hcopied
    rw [h] at hresult hafter
    cases hfault : content.fault? with
    | some cause =>
      rw [hfault] at hresult
      cases hresult
    | none =>
      simp only [hfault, Option.isNone_none, if_true] at hresult hafter
      obtain rfl := Except.ok.inj hresult
      exact ⟨content.legible, by rw [hafter.files]; exact hcopied⟩

/-- How the system opens an image matters only for the path of the copy that is made. -/
theorem loadWith_eq_load {open? : Path → World → Option Image}
    (h : ∀ content copy after,
      LoadedUnit.copyBeside w.files library name content = .ok (copy, after) →
        open? copy = LoadedUnit.openStaged? copy) :
    LoadedUnit.loadWith open? library name w = LoadedUnit.load library name w := by
  rw [LoadedUnit.load, LoadedUnit.loadWith, LoadedUnit.loadWith, Effect.bind_apply,
    Effect.bind_apply]
  simp only [Effect.ask]
  -- Up to the opening of the copy, both do the same.
  split_ifs with hfile
  · rcases hstage : LoadedUnit.stage library name w with ⟨e | copy, after⟩
    · rw [Effect.bind_of_error hstage, Effect.bind_of_error hstage]
    · obtain ⟨content, hcopied⟩ := exists_copyBeside_of_stage hfile hstage
      rw [Effect.bind_of_ok hstage, Effect.bind_of_ok hstage, h content copy _ hcopied]
  · rfl

/-! ## The copies of the units that are open -/

/-- Each unit that is open has its copy. -/
theorem Sound.exists_staged (h : Sound alone s) {unit : LoadedUnit} (hunit : unit ∈ s.units) :
    ∃ loc, Staged s.world.files unit loc := by
  obtain ⟨copies, hunits, hholds⟩ := h
  rw [← hunits] at hunit
  obtain ⟨⟨unit, loc⟩, hmem, rfl⟩ := List.mem_map.mp hunit
  exact ⟨loc, hholds.staged unit loc hmem⟩

/-- No two units that are open were opened from one path, as one path leads to one copy. -/
theorem Sound.nodup_staged (h : Sound alone s) : (s.units.map (·.staged)).Nodup := by
  obtain ⟨copies, hunits, hholds⟩ := h
  rw [← hunits, List.map_map]
  refine List.Nodup.map_on ?_ (List.Nodup.of_map _ hholds.distinct)
  -- Units with one path would have their copies at one place.
  rintro ⟨unit, loc⟩ hmem ⟨other, place⟩ hother hsame
  have hloc := (hholds.staged unit loc hmem).locate_eq
  have hplace := (hholds.staged other place hother).locate_eq
  rw [show unit.staged = other.staged from hsame, hplace] at hloc
  exact List.inj_on_of_nodup_map hholds.distinct hmem hother (Except.ok.inj hloc).symm

/-- A new copy is made where none is, under the path of no unit that is open. -/
theorem Sound.fresh (h : Sound alone s) {content : Content} {after : FileSystem}
    (hcopied : LoadedUnit.copyBeside s.world.files library name content = .ok (copy, after)) :
    ∀ unit ∈ s.units, unit.staged ≠ copy := by
  rintro unit hunit rfl
  -- The path would lead to the copy of the unit, and to where nothing is.
  obtain ⟨hcreate, -⟩ := LoadedUnit.exists_createFile_of_copyBeside hcopied
  obtain ⟨loc, hwritten, hvacant, -⟩ := createFile_eq_ok hcreate
  obtain ⟨place, hstaged⟩ := h.exists_staged hunit
  obtain ⟨executable, hfile⟩ := hstaged.file
  obtain rfl := Except.ok.inj (hwritten.locate_eq.symm.trans hstaged.locate_eq)
  cases hvacant.symm.trans hfile

/-! ## The loader -/

/-- The loader has mapped the images of the units that are open and nothing else, and each of them
is what its library held when it was loaded. -/
structure Faithful (p : Process) : Prop where
  sound : ∃ alone, Sound alone p.state
  mapped : p.loader.mapped = p.units.map fun opened => (opened.unit.staged, opened.unit.image)
  original : ∀ opened ∈ p.units, opened.original = .ok (.image opened.unit.image)

/-- At first nothing is loaded. -/
theorem Faithful.start (w : World) : Faithful ⟨w, ⟨[]⟩, []⟩ where
  sound := ⟨w.files, [], rfl, .start w.files⟩
  mapped := rfl
  original _ h := absurd h List.not_mem_nil

namespace Faithful

/-- Nothing is mapped under the path of a new copy. -/
theorem lookup_copy (h : Faithful p) {content : Content} {after : FileSystem}
    (hcopied : LoadedUnit.copyBeside p.world.files library name content = .ok (copy, after)) :
    p.loader.mapped.lookup copy = none := by
  obtain ⟨alone, hsound⟩ := h.sound
  rw [h.mapped, List.lookup_eq_none_iff]
  intro entry hentry
  obtain ⟨opened, hopened, rfl⟩ := List.mem_map.mp hentry
  have hne := hsound.fresh hcopied opened.unit (List.mem_map_of_mem hopened)
  simpa using hne.symm

/-- The loader maps what is in the new copy. -/
theorem loadWith_eq (h : Faithful p) (library : Path) (name : String) :
    LoadedUnit.loadWith p.loader.open? library name p.world =
      LoadedUnit.load library name p.world := by
  refine loadWith_eq_load fun content copy after hcopied => funext fun w => ?_
  rw [Loader.open?, h.lookup_copy hcopied, Option.none_or]

/-- No other unit was opened from the path of a unit. -/
theorem staged_ne (h : Faithful p) {front back : List Opened} {opened : Opened}
    (hunits : p.units = front ++ opened :: back) :
    ∀ other ∈ front, other.unit.staged ≠ opened.unit.staged := by
  obtain ⟨alone, hsound⟩ := h.sound
  have hnodup := hsound.nodup_staged
  rw [Process.state, List.map_map, hunits, List.map_append, List.map_cons, List.nodup_middle,
    List.nodup_cons] at hnodup
  intro other hother hsame
  exact hnodup.1 (List.mem_append_left _ (List.mem_map.mpr ⟨other, hother, hsame⟩))

/-- Under the path of a unit that is open the loader has its image. -/
theorem open?_staged (h : Faithful p) {opened : Opened} (hopened : opened ∈ p.units) (w : World) :
    p.loader.open? opened.unit.staged w = some opened.unit.image := by
  obtain ⟨front, back, hunits⟩ := List.append_of_mem hopened
  have hlookup : p.loader.mapped.lookup opened.unit.staged = some opened.unit.image := by
    rw [h.mapped, hunits, List.map_append, List.map_cons, List.lookup_eq_some_iff]
    refine ⟨_, _, rfl, fun entry hentry => ?_⟩
    obtain ⟨other, hother, rfl⟩ := List.mem_map.mp hentry
    simpa using (h.staged_ne hunits other hother).symm
  rw [Loader.open?, hlookup, Option.some_or]

/-- With the loader, a deed does what it does without. -/
theorem state_performIn (h : Faithful p) (deed : Deed) :
    (deed.performIn p).state = deed.perform p.state := by
  -- A unit has the same number with and without the loader.
  have hnumber : ∀ number : Nat, p.state.units[number]? = p.units[number]?.map (·.unit) :=
    fun _ => List.getElem?_map
  cases deed with
  | load library name =>
    rw [Deed.performIn, Deed.perform, h.loadWith_eq, Process.state_world]
    rcases LoadedUnit.load library name p.world with ⟨e | unit, w⟩
    · rfl
    · simp [Process.state]
  | invoke number symbol =>
    rw [Deed.performIn, Deed.perform, hnumber]
    cases p.units[number]? with
    | none => rfl
    | some opened => rfl
  | close number =>
    rw [Deed.performIn, Deed.perform, hnumber]
    cases p.units[number]? with
    | none => rfl
    | some opened => simp [Process.state, List.eraseIdx_map]
  | write | remove | names => rfl

/-- The handle that is closed is that of the unit. -/
theorem release_eq (h : Faithful p) {number : Nat} {opened : Opened}
    (hopened : p.units[number]? = some opened) :
    (p.loader.release opened.unit.staged).mapped =
      (p.units.eraseIdx number).map fun opened => (opened.unit.staged, opened.unit.image) := by
  obtain ⟨front, back, hunits, herase⟩ := exists_append_of_getElem? hopened
  rw [herase, Loader.release, h.mapped, hunits, List.map_append, List.map_append, List.map_cons,
    List.eraseP_append_right, List.eraseP_cons_of_pos (by simp)]
  -- No handle before that of the unit has its path.
  intro entry hentry
  obtain ⟨other, hother, rfl⟩ := List.mem_map.mp hentry
  simpa using h.staged_ne hunits other hother

/-- Each deed keeps the units what their libraries held. -/
theorem performIn (h : Faithful p) (hspares : deed.Spares p.state) :
    Faithful (deed.performIn p) := by
  obtain ⟨alone, hsound⟩ := h.sound
  have hsound' : ∃ alone, Sound alone (deed.performIn p).state :=
    ⟨_, h.state_performIn deed ▸ hsound.perform hspares⟩
  cases deed with
  | load library name =>
    rw [Deed.performIn, h.loadWith_eq] at hsound' ⊢
    rcases hload : LoadedUnit.load library name p.world with ⟨e | unit, w⟩ <;>
      rw [hload] at hsound'
    · exact ⟨hsound', h.mapped, h.original⟩
    · refine ⟨hsound', ?_, ?_⟩
      · simp [Loader.hold, h.mapped]
      · intro opened hopened
        rcases List.mem_append.mp hopened with hopened | hopened
        · exact h.original opened hopened
        · -- The unit that has just been loaded is what the library holds now.
          rw [List.mem_singleton.mp hopened]
          exact content_of_load (congrArg Prod.fst hload)
  | invoke number symbol =>
    rw [Deed.performIn] at hsound' ⊢
    cases hopened : p.units[number]? with
    | none => exact h
    | some opened =>
      rw [hopened] at hsound'
      exact ⟨hsound', h.mapped, h.original⟩
  | close number =>
    rw [Deed.performIn] at hsound' ⊢
    cases hopened : p.units[number]? with
    | none => exact h
    | some opened =>
      rw [hopened] at hsound'
      exact ⟨hsound', h.release_eq hopened, fun other hother =>
        h.original other (List.mem_of_mem_eraseIdx hother)⟩
  | write | remove | names => exact ⟨hsound', h.mapped, h.original⟩

end Faithful

/-! ## The library -/

/-- No deed makes a directory or removes one, so a path leads where it led. -/
theorem locate_perform_iff {path : Path} {loc : Location} :
    (deed.perform s).world.files.locate path = .ok loc ↔
      s.world.files.locate path = .ok loc := by
  cases deed with
  | load library name =>
    have hends := LoadedUnit.loadEnds_load library name s.world
    rw [Deed.perform]
    rcases hload : LoadedUnit.load library name s.world with ⟨e | unit, w⟩ <;> rw [hload] at hends
    · have hfiles : w.files = s.world.files := hends.files_eq
      simp only [hfiles]
    · obtain ⟨place, hwritten, -⟩ := hends.exists_written
      exact hwritten.toChangedAt.locate_iff hwritten.noDirectory_after
  | invoke number symbol =>
    rw [Deed.perform]
    cases s.units[number]? with
    | none => rfl
    | some unit => simp only [LoadedUnit.files_invoke]
  | close number =>
    rw [Deed.perform]
    cases s.units[number]? with
    | none => rfl
    | some unit => exact locate_removeFile_iff
  | write path content => exact locate_tryWrite_iff
  | remove path => exact locate_removeFile_iff
  | names source => exact iff_of_eq (congrArg (· = _) (locate_names s.world.files source path))

/-- Who is open after a deed was open before, or has just been loaded. -/
theorem mem_units_perform (h : unit ∈ (deed.perform s).units) :
    unit ∈ s.units ∨ ∃ library name, deed = .load library name ∧
      (LoadedUnit.load library name s.world).1 = .ok unit := by
  cases deed with
  | load library name =>
    rw [Deed.perform] at h
    rcases hload : LoadedUnit.load library name s.world with ⟨e | other, w⟩ <;> rw [hload] at h
    · exact .inl h
    · refine (List.mem_append.mp h).imp_right fun hother => ⟨library, name, rfl, ?_⟩
      rw [hload, List.mem_singleton.mp hother]
  | invoke number symbol =>
    rw [Deed.perform] at h
    split at h <;> exact .inl h
  | close number =>
    rw [Deed.perform] at h
    split at h
    · exact .inl (List.mem_of_mem_eraseIdx h)
    · exact .inl h
  | write | remove | names => exact .inl h

/-- The path of the library leads to no copy: a copy is made where nothing is, while there is a
library to be copied. -/
theorem KeepsAway.perform (h : KeepsAway s.world.files s.units library) (hon : deed.On library) :
    KeepsAway (deed.perform s).world.files (deed.perform s).units library := by
  intro unit hunit loc hstaged hlibrary
  rw [locate_perform_iff] at hstaged hlibrary
  rcases mem_units_perform hunit with hunit | ⟨path, name, rfl, hload⟩
  · exact h unit hunit loc hstaged hlibrary
  · -- The copy has just been made where nothing was, and there the library was.
    obtain rfl : path = library := hon
    have hends := LoadedUnit.loadEnds_load path name s.world
    rw [hload] at hends
    obtain ⟨place, hwritten, hvacant⟩ := hends.exists_written
    obtain rfl := Except.ok.inj (hstaged.symm.trans hwritten.locate_eq)
    obtain ⟨other, content, executable, hother, -, hfile⟩ :=
      isFile_iff.mp (isFile_of_content (content_of_load hload))
    obtain rfl := Except.ok.inj (hlibrary.symm.trans hother)
    cases hvacant.symm.trans hfile

/-- What is done to the library spares the copies. -/
theorem KeepsAway.spares (h : KeepsAway s.world.files s.units library) (hon : deed.On library) :
    deed.Spares s := by
  cases deed with
  | load | invoke | close | names => trivial
  | write path content => exact (show path = library from hon) ▸ h
  | remove path => exact (show path = library from hon) ▸ h

/-- Along a history of one library the units stay what it held. -/
theorem Faithful.performAllIn (h : Faithful p)
    (haway : KeepsAway p.world.files p.state.units library)
    (hon : ∀ deed ∈ deeds, deed.On library) :
    Faithful (performAllIn deeds p) ∧
      KeepsAway (Loading.performAllIn deeds p).world.files
        (Loading.performAllIn deeds p).state.units library := by
  -- What comes next spares the copies only because the library has been kept apart from them, so
  -- the two facts are carried along together.
  induction deeds generalizing p with
  | nil => exact ⟨h, haway⟩
  | cons deed deeds ih =>
    obtain ⟨hdeed, hdeeds⟩ := List.forall_mem_cons.mp hon
    have haway' := haway.perform (s := p.state) hdeed
    rw [← h.state_performIn] at haway'
    exact ih (h.performIn (haway.spares (s := p.state) hdeed)) haway' hdeeds

end

/-- In any history of one library, in which it is written and removed and units are loaded from it,
called and closed, each unit that is open is what the library held when it was loaded: the loader
has that image under the path of the unit, and calls find the symbols of the image and return what
these return. A load is never served with an image that was mapped before, since its copy has a path
under which nothing is mapped, so it is what it is without such a loader, and a unit that it returns
is what the library holds. The paths of the units that are open are pairwise different, and none is
that of the library. -/
theorem units_are_snapshots (library : Path) (deeds : List Deed) (w : World)
    (hon : ∀ deed ∈ deeds, deed.On library) :
    let p := performAllIn deeds ⟨w, ⟨[]⟩, []⟩
    (∀ opened ∈ p.units, ∃ image, opened.original = .ok (.image image) ∧
      p.loader.open? opened.unit.staged p.world = some image ∧
      ∀ symbol, (opened.unit.invoke symbol p.world).1 = callResult image symbol) ∧
    (∀ name,
      (∀ content copy after,
        LoadedUnit.copyBeside p.world.files library name content = .ok (copy, after) →
          p.loader.mapped.lookup copy = none) ∧
      LoadedUnit.loadWith p.loader.open? library name p.world =
        LoadedUnit.load library name p.world ∧
      ∀ unit, (LoadedUnit.loadWith p.loader.open? library name p.world).1 = .ok unit →
        p.world.files.content library = .ok (.image unit.image)) ∧
    (p.units.map (·.unit.staged)).Nodup ∧
      ∀ opened ∈ p.units, opened.unit.staged ≠ library := by
  intro p
  obtain ⟨h, haway⟩ : Faithful p ∧ KeepsAway p.world.files p.state.units library :=
    (Faithful.start w).performAllIn (fun _ hunit => absurd hunit List.not_mem_nil) hon
  obtain ⟨alone, hsound⟩ := h.sound
  refine ⟨fun opened hopened => ⟨opened.unit.image, h.original opened hopened,
    h.open?_staged hopened p.world, fun symbol => invoke_result opened.unit symbol p.world⟩,
    fun name => ⟨fun content copy after hcopied => h.lookup_copy hcopied, h.loadWith_eq library name,
      fun unit hload => ?_⟩, ?_, ?_⟩
  · rw [h.loadWith_eq] at hload
    exact content_of_load hload
  · have hnodup := hsound.nodup_staged
    rwa [Process.state, List.map_map] at hnodup
  · rintro opened hopened rfl
    have hunit : opened.unit ∈ p.state.units := List.mem_map_of_mem hopened
    obtain ⟨loc, hstaged⟩ := hsound.exists_staged hunit
    exact haway opened.unit hunit loc hstaged.locate_eq hstaged.locate_eq

/-- A library with one entry point, which returns `status`. -/
def libraryOf (status : Int32) : Content :=
  .image ⟨[("entry", status)]⟩

/-- A directory in which nothing is. -/
def emptyDirectory : World where
  files := { entries := [(["out".toList], .directory .full)], here := [] }
  environment := ⟨[]⟩
  plans _ := ⟨[], .nothing, .exited 0⟩
  history := []

/-- The library is rebuilt while a unit is open, and removed while two are: each unit still returns
what it returned when it was loaded. -/
theorem units_are_snapshots_rebuilt :
    let library := Path.ofString "out/libunit.so"
    let deeds : List Deed := [.write library (libraryOf 0), .load library "unit",
      .write library (libraryOf 1), .invoke 0 "entry", .load library "unit", .load library "unit",
      .close 1, .remove library]
    ∃ p first second, p = performAllIn deeds ⟨emptyDirectory, ⟨[]⟩, []⟩ ∧
      p.units = [first, second] ∧
      (first.unit.invoke "entry" p.world).1 = .ok .completed ∧
      (second.unit.invoke "entry" p.world).1 = .ok .panicked ∧
      p.world.files.isFile library = false := by
  intro library deeds
  have hfacts := units_are_snapshots library deeds emptyDirectory (by decide)
  have horiginals : (performAllIn deeds ⟨emptyDirectory, ⟨[]⟩, []⟩).units.map (·.original) =
      [.ok (libraryOf 0), .ok (libraryOf 1)] := by decide +kernel
  have hremoved : (performAllIn deeds ⟨emptyDirectory, ⟨[]⟩, []⟩).world.files.isFile library =
      false := by decide +kernel
  -- From here on the process is what these facts say of it.
  generalize performAllIn deeds ⟨emptyDirectory, ⟨[]⟩, []⟩ = p at hfacts horiginals hremoved
  obtain ⟨hunits, -⟩ := hfacts
  obtain ⟨first, rest, hall, hfirst, hrest⟩ := List.map_eq_cons_iff.mp horiginals
  obtain ⟨second, rest, rfl, hsecond, hnil⟩ := List.map_eq_cons_iff.mp hrest
  obtain rfl := List.map_eq_nil_iff.mp hnil
  refine ⟨p, first, second, rfl, hall, ?_, ?_, hremoved⟩
  · obtain ⟨image, horiginal, -, hinvoke⟩ := hunits first (by simp [hall])
    obtain rfl := Content.image.inj (Except.ok.inj (horiginal.symm.trans hfirst))
    rw [hinvoke]
    decide
  · obtain ⟨image, horiginal, -, hinvoke⟩ := hunits second (by simp [hall])
    obtain rfl := Content.image.inj (Except.ok.inj (horiginal.symm.trans hsecond))
    rw [hinvoke]
    decide

end FragmentRunner.Loading
