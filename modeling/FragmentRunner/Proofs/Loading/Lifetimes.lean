import FragmentRunner.Proofs.FileSystem.Alike
import FragmentRunner.Proofs.Loading.Unit
import Mathlib.Data.List.InsertIdx
import Mathlib.Data.List.Nodup

/-!
# Lifetimes of loaded units

Units are loaded, called and closed in any order. Several can be open at once, also several of one
name, and in between others write and remove files. As long as the others keep away from the copies
of the units that are open, loading leaves no trace: at any time the files are those that the others
alone would have made, and one copy for each unit that is open (`Holds`).

* `Holds.add` and `Holds.remove`: a unit is opened with its copy and closed with it.
* `Sound.perform` and `Sound.performAll`: one deed, and a history of them.
* `loading_leaves_no_trace`: one load, and any history of loads.
* `loading_misses_files`: files that are there and are not found.
-/

namespace FragmentRunner.Loading

open FileSystem

/-- Something that is done while units are open. A unit is known by its number among the units that
are open. -/
inductive Deed
  /-- The unit `name` is loaded from `library`. -/
  | load (library : Path) (name : String)
  /-- An entry point of a unit is called. -/
  | invoke (number : Nat) (symbol : String)
  /-- A unit is closed. -/
  | close (number : Nat)
  /-- A file is written by others. -/
  | write (path : Path) (content : Content)
  /-- A file is removed by others. -/
  | remove (path : Path)
  /-- From here on the names of copies are made up in another way. -/
  | names (source : NameSource)

/-- The world and the units that are open in it, in the order in which they were loaded. -/
structure State where
  world : World
  units : List LoadedUnit

/-- The path leads to none of the copies from which `units` were opened. -/
def KeepsAway (fs : FileSystem) (units : List LoadedUnit) (path : Path) : Prop :=
  ∀ unit ∈ units, ∀ loc, fs.locate unit.staged = .ok loc → fs.locate path ≠ .ok loc

namespace Deed

/-- What others do to the files. -/
def byOthers (deed : Deed) (fs : FileSystem) : FileSystem :=
  match deed with
  | .write path content => fs.tryWrite path content
  | .remove path => fs.removeFile path
  | .names source => { fs with names := source }
  | .load .. | .invoke .. | .close _ => fs

/-- What a deed makes of a state. A load that fails opens no unit, and what is to be done to a unit
that is not open is not done. -/
def perform (deed : Deed) (s : State) : State :=
  match deed with
  | .load library name =>
    match LoadedUnit.load library name s.world with
    | (.ok unit, w) => ⟨w, s.units ++ [unit]⟩
    | (.error _, w) => { s with world := w }
  | .invoke number symbol =>
    match s.units[number]? with
    | some unit => { s with world := (unit.invoke symbol s.world).2 }
    | none => s
  | .close number =>
    match s.units[number]? with
    | some unit =>
      { world := ((unit.close : Effect Empty Unit) s.world).2, units := s.units.eraseIdx number }
    | none => s
  | .write .. | .remove _ | .names _ =>
    { s with world := { s.world with files := deed.byOthers s.world.files } }

/-- Others keep away from the copies of the units that are open. -/
def Spares (deed : Deed) (s : State) : Prop :=
  match deed with
  | .write path _ | .remove path => KeepsAway s.world.files s.units path
  | .load .. | .invoke .. | .close _ | .names _ => True

end Deed

/-- What a history makes of a state. -/
def performAll (deeds : List Deed) (s : State) : State :=
  deeds.foldl (fun s deed => deed.perform s) s

/-- What others alone make of the files in the course of a history. -/
def byOthersAlone (deeds : List Deed) (fs : FileSystem) : FileSystem :=
  deeds.foldl (fun fs deed => deed.byOthers fs) fs

/-- Throughout a history others keep away from the copies of the units that are open. -/
def Spared : List Deed → State → Prop
  | [], _ => True
  | deed :: deeds, s => deed.Spares s ∧ Spared deeds (deed.perform s)

/-- The copy from which a unit was opened is at `loc` and holds its image. -/
structure Staged (fs : FileSystem) (unit : LoadedUnit) (loc : Location) : Prop where
  locate_eq : fs.locate unit.staged = .ok loc
  noSlash : unit.staged.endsWithSlash = false
  file : ∃ executable, fs.node? loc = some (.file (.image unit.image) executable)

/-- `fs` is `alone` with one new file for each unit, which is the copy from which it was opened. -/
structure Holds (alone fs : FileSystem) (copies : List (LoadedUnit × Location)) : Prop where
  here : fs.here = alone.here
  staged : ∀ unit loc, (unit, loc) ∈ copies → Staged fs unit loc
  /-- No two units share a copy. -/
  distinct : (copies.map Prod.snd).Nodup
  vacant : ∀ loc ∈ copies.map Prod.snd, alone.node? loc = none
  elsewhere : ∀ loc ∉ copies.map Prod.snd, fs.node? loc = alone.node? loc

section

variable {alone alone' fs fs' : FileSystem} {copies front back : List (LoadedUnit × Location)}
  {unit : LoadedUnit} {loc place : Location} {p : Path} {s : State} {deed : Deed} {deeds : List Deed}

/-! ## The copies of the units that are open -/

/-- A copy stays where something is changed at another place. -/
theorem Staged.changedAt (h : Staged fs unit loc) (hchanged : ChangedAt fs fs' place)
    (hne : loc ≠ place) : Staged fs' unit loc where
  locate_eq := hchanged.locate_eq_ok h.locate_eq
  noSlash := h.noSlash
  file := by rw [hchanged.elsewhere loc hne]; exact h.file

/-- A copy is a file and no directory. -/
theorem Staged.noDirectory (h : Staged fs unit loc) (access : Access) :
    fs.node? loc ≠ some (.directory access) := by
  obtain ⟨executable, hfile⟩ := h.file
  simp [hfile]

namespace Holds

/-- At first no unit is open. -/
theorem start (fs : FileSystem) : Holds fs fs [] where
  here := rfl
  staged _ _ h := absurd h List.not_mem_nil
  distinct := List.nodup_nil
  vacant _ h := absurd h List.not_mem_nil
  elsewhere _ _ := rfl

/-- At the place of a copy there is the copy. -/
theorem exists_staged (h : Holds alone fs copies) (hloc : loc ∈ copies.map Prod.snd) :
    ∃ unit ∈ copies.map Prod.fst, Staged fs unit loc := by
  obtain ⟨⟨unit, place⟩, hmem, rfl⟩ := List.mem_map.mp hloc
  exact ⟨unit, List.mem_map_of_mem hmem, h.staged unit place hmem⟩

/-- Apart from the copies the files are the same, and a path leads to the same place. -/
theorem overwritten (h : Holds alone fs copies) :
    Overwritten alone fs {loc | loc ∈ copies.map Prod.snd} where
  here := h.here
  noDirectory loc hloc access := by simp [h.vacant loc hloc]
  file loc hloc := by
    obtain ⟨unit, -, hstaged⟩ := h.exists_staged hloc
    exact ⟨_, hstaged.file⟩
  elsewhere := h.elsewhere

/-- Who keeps away from the copies comes to none of their places. -/
theorem locate_ne (h : Holds alone fs copies) (hpath : KeepsAway fs (copies.map Prod.fst) p) :
    ∀ loc ∈ {loc | loc ∈ copies.map Prod.snd}, fs.locate p ≠ .ok loc := by
  intro loc hloc
  obtain ⟨unit, hunit, hstaged⟩ := h.exists_staged hloc
  exact hpath unit hunit loc hstaged.locate_eq

/-- What others do elsewhere leaves the copies as they are. -/
theorem changedAlike (h : Holds alone fs copies)
    (hchanged : ChangedAlike alone alone' fs fs' {loc | loc ∈ copies.map Prod.snd}) :
    Holds alone' fs' copies := by
  rcases hchanged with ⟨rfl, rfl⟩ | ⟨place, hplace, halone, hfs, hsame⟩
  · exact h
  · -- The change is made where no copy is.
    have hne : ∀ loc ∈ copies.map Prod.snd, loc ≠ place := by
      rintro loc hloc rfl
      exact hplace hloc
    refine ⟨by rw [hfs.here, halone.here, h.here], fun unit loc hmem => ?_, h.distinct,
      fun loc hloc => ?_, fun loc hloc => ?_⟩
    · exact (h.staged unit loc hmem).changedAt hfs (hne loc (List.mem_map_of_mem hmem))
    · rw [halone.elsewhere loc (hne loc hloc)]
      exact h.vacant loc hloc
    · by_cases hloc' : loc = place
      · rw [hloc', hsame]
      · rw [hfs.elsewhere loc hloc', halone.elsewhere loc hloc', h.elsewhere loc hloc]

/-- However names are made up, the copies are where they are. -/
theorem names (h : Holds alone fs copies) (source : NameSource) :
    Holds { alone with names := source } { fs with names := source } copies where
  here := h.here
  staged unit loc hmem := by
    obtain ⟨hlocate, hslash, hfile⟩ := h.staged unit loc hmem
    exact ⟨(locate_names fs source unit.staged).trans hlocate, hslash, hfile⟩
  distinct := h.distinct
  vacant := h.vacant
  elsewhere := h.elsewhere

/-- A unit is opened, and its copy is one more file. -/
theorem add (h : Holds alone fs copies)
    (hwritten : WrittenAt fs fs' unit.staged (.image unit.image) loc)
    (hvacant : fs.node? loc = none) : Holds alone fs' (copies ++ [(unit, loc)]) := by
  have hchanged := hwritten.toChangedAt
  -- The copies that there are stand elsewhere, for nothing stands here.
  have hfree : loc ∉ copies.map Prod.snd := by
    intro hloc
    obtain ⟨other, -, hstaged⟩ := h.exists_staged hloc
    obtain ⟨executable, hfile⟩ := hstaged.file
    cases hvacant.symm.trans hfile
  have hplaces : (copies ++ [(unit, loc)]).map Prod.snd = copies.map Prod.snd ++ [loc] :=
    List.map_append
  refine ⟨hchanged.here.trans h.here, fun other place hmem => ?_, ?_, fun place hplace => ?_,
    fun place hplace => ?_⟩
  · rcases List.mem_append.mp hmem with hmem | hmem
    · have hplace : place ∈ copies.map Prod.snd := List.mem_map_of_mem hmem
      refine (h.staged other place hmem).changedAt hchanged ?_
      rintro rfl
      exact hfree hplace
    · obtain ⟨rfl, rfl⟩ := Prod.mk.inj (List.mem_singleton.mp hmem)
      exact ⟨hchanged.locate_eq_ok hwritten.locate_eq, hwritten.noSlash, hwritten.file⟩
  · rw [hplaces, ← List.concat_eq_append, List.nodup_concat]
    exact ⟨hfree, h.distinct⟩
  · rw [hplaces, List.mem_append, List.mem_singleton] at hplace
    rcases hplace with hplace | rfl
    · exact h.vacant place hplace
    · rw [← h.elsewhere place hfree, hvacant]
  · rw [hplaces, List.mem_append, not_or, List.mem_singleton] at hplace
    rw [hchanged.elsewhere place hplace.2, h.elsewhere place hplace.1]

/-- A unit is closed, and its copy is gone, and nothing else. -/
theorem remove (h : Holds alone fs (front ++ (unit, loc) :: back)) :
    Holds alone (fs.removeFile unit.staged) (front ++ back) := by
  have hstaged := h.staged unit loc (by simp)
  obtain ⟨executable, hfile⟩ := hstaged.file
  rw [removeFile_of_file hstaged.locate_eq hstaged.noSlash hfile]
  have hchanged : ChangedAt fs (fs.erase loc) loc := changedAt_erase hstaged.noDirectory
  have hplaces : (front ++ (unit, loc) :: back).map Prod.snd =
      front.map Prod.snd ++ loc :: back.map Prod.snd := by simp
  -- No other copy is in the place of this one.
  have hnodup := h.distinct
  rw [hplaces, List.nodup_middle, ← List.map_append] at hnodup
  obtain ⟨hfree, hdistinct⟩ := List.nodup_cons.mp hnodup
  have hmem : ∀ {other place}, (other, place) ∈ front ++ back →
      (other, place) ∈ front ++ (unit, loc) :: back := by
    intro other place hmem
    rcases List.mem_append.mp hmem with hmem | hmem <;> simp [hmem]
  refine ⟨h.here, fun other place hother => ?_, hdistinct, fun place hplace => ?_,
    fun place hplace => ?_⟩
  · have hplace : place ∈ (front ++ back).map Prod.snd := List.mem_map_of_mem hother
    refine (h.staged other place (hmem hother)).changedAt hchanged ?_
    rintro rfl
    exact hfree hplace
  · obtain ⟨⟨other, place⟩, hother, rfl⟩ := List.mem_map.mp hplace
    exact h.vacant place (List.mem_map_of_mem (hmem hother))
  · by_cases hloc : place = loc
    · -- Where the copy was nothing is left, as there was nothing before it.
      rw [hloc, node?_erase_self hstaged.noDirectory, h.vacant loc (by simp)]
    · rw [hchanged.elsewhere place hloc]
      refine h.elsewhere place fun hplace' => hplace ?_
      rw [hplaces, List.mem_append, List.mem_cons] at hplace'
      rw [List.map_append, List.mem_append]
      exact hplace'.imp_right fun h => h.resolve_left hloc

end Holds

/-! ## Histories -/

/-- The units that are open have their copies among the files, which are else those of `alone`. -/
def Sound (alone : FileSystem) (s : State) : Prop :=
  ∃ copies, copies.map Prod.fst = s.units ∧ Holds alone s.world.files copies

/-- An entry of a list stands between those before it and those after it. -/
theorem exists_append_of_getElem? {α : Type} {l : List α} {i : Nat} {a : α} (h : l[i]? = some a) :
    ∃ front back, l = front ++ a :: back ∧ l.eraseIdx i = front ++ back := by
  obtain ⟨hi, rfl⟩ := List.getElem?_eq_some_iff.mp h
  refine ⟨l.take i, l.drop (i + 1), ?_, List.eraseIdx_eq_take_drop_succ ..⟩
  rw [← List.drop_eq_getElem_cons hi, List.take_append_drop]

/-- Whatever is done to the units that are open, the files are those of before but for their
copies. -/
theorem Sound.perform (h : Sound alone s) (hspares : deed.Spares s) :
    Sound (deed.byOthers alone) (deed.perform s) := by
  obtain ⟨copies, hunits, hholds⟩ := h
  cases deed with
  | load library name =>
    have hends := LoadedUnit.loadEnds_load library name s.world
    rw [Deed.perform]
    rcases hload : LoadedUnit.load library name s.world with ⟨e | unit, w⟩ <;> rw [hload] at hends
    · -- A load that fails leaves nothing behind.
      exact ⟨copies, hunits, hends.files_eq ▸ hholds⟩
    · obtain ⟨loc, hwritten, hvacant⟩ := hends.exists_written
      exact ⟨copies ++ [(unit, loc)], by simp [hunits], hholds.add hwritten hvacant⟩
  | invoke number symbol =>
    rw [Deed.perform]
    cases hunit : s.units[number]? with
    | none => exact ⟨copies, hunits, hholds⟩
    | some unit =>
      exact ⟨copies, hunits, (LoadedUnit.files_invoke unit symbol s.world).symm ▸ hholds⟩
  | close number =>
    rw [Deed.perform]
    cases hunit : s.units[number]? with
    | none => exact ⟨copies, hunits, hholds⟩
    | some unit =>
      -- The unit has its copy at the same number.
      rw [← hunits, List.getElem?_map] at hunit
      obtain ⟨⟨other, loc⟩, hcopy, rfl⟩ := Option.map_eq_some_iff.mp hunit
      obtain ⟨front, back, rfl, herase⟩ := exists_append_of_getElem? hcopy
      refine ⟨front ++ back, ?_, hholds.remove⟩
      rw [← herase, ← hunits, List.eraseIdx_map]
  | write path content =>
    have hpath : KeepsAway s.world.files (copies.map Prod.fst) path := hunits ▸ hspares
    exact ⟨copies, hunits,
      hholds.changedAlike (hholds.overwritten.write_alike (hholds.locate_ne hpath) content)⟩
  | remove path =>
    have hpath : KeepsAway s.world.files (copies.map Prod.fst) path := hunits ▸ hspares
    exact ⟨copies, hunits,
      hholds.changedAlike (hholds.overwritten.remove_alike (hholds.locate_ne hpath))⟩
  | names source => exact ⟨copies, hunits, hholds.names source⟩

/-- Along a history the files are at any time those that others alone make, but for the copies of
the units that are open. -/
theorem Sound.performAll (h : Sound alone s) (hspared : Spared deeds s) :
    Sound (byOthersAlone deeds alone) (performAll deeds s) := by
  induction deeds generalizing alone s with
  | nil => exact h
  | cons deed deeds ih =>
    obtain ⟨hdeed, hdeeds⟩ := hspared
    exact ih (h.perform hdeed) hdeeds

end

/-- A load reports a missing library if and only if its path cannot be followed to a regular file,
and leaves all files as they were if it fails. If it succeeds there is exactly one new file, which
lies beside the library, is named after the unit and holds the same as the library; closing the unit
removes exactly this file. So after any history of loads, calls and closings, and of writes and
removals that keep away from the copies, the files are those that the writes and removals alone
would have made, and exactly one copy for each unit that is open. Names for the copies can be made
up in another way at any time. -/
theorem loading_leaves_no_trace {ε : Type} :
    (∀ (library : Path) (name : String) (w : World), '/' ∉ name.toList →
      let result := (LoadedUnit.load library name w).1
      let after := (LoadedUnit.load library name w).2
      (∀ path, result = .error (.missing path) ↔ path = library ∧
        ∀ content executable, ¬ w.files.Reaches library (.file content executable)) ∧
      (∀ e, result = .error e → after.files = w.files) ∧
      ∀ unit, result = .ok unit →
        (∃ loc, LoadedUnit.OneCopy w.files library name unit after.files loc) ∧
        ((unit.close : Effect ε Unit) after).2.files = w.files) ∧
    ∀ (deeds : List Deed) (w : World), Spared deeds ⟨w, []⟩ →
      let after := performAll deeds ⟨w, []⟩
      ∃ copies, copies.map Prod.fst = after.units ∧
        Holds (byOthersAlone deeds w.files) after.world.files copies := by
  constructor
  · intro library name w hname result after
    have hends : LoadedUnit.LoadEnds w.files library name result after.files :=
      LoadedUnit.loadEnds_load library name w
    refine ⟨fun path => ?_, fun e he => ?_, fun unit hunit => ?_⟩
    · rw [hends.missing_iff, ← Bool.not_eq_true, isFile_iff_reaches]
      simp only [not_exists]
    · rw [he] at hends
      exact hends.files_eq
    · rw [hunit] at hends
      obtain ⟨loc, hcopy⟩ := hends.exists_oneCopy hname
      exact ⟨⟨loc, hcopy⟩, hcopy.removed⟩
  · intro deeds w hspared after
    have hstart : Sound w.files ⟨w, []⟩ := ⟨[], rfl, .start w.files⟩
    exact hstart.performAll hspared

/-- Two units of one name are open, each with its copy, until one of them is closed. -/
example :
    let library := Path.ofString "libunit.so"
    let files : FileSystem :=
      { entries := [(["libunit.so".toList], .file (.image ⟨[("entry", 1)]⟩) false)], here := [] }
    let w : World := ⟨files, ⟨[]⟩, fun _ => ⟨[], .nothing, .exited 0⟩, []⟩
    let two := performAll [.load library "unit", .load library "unit"] ⟨w, []⟩
    let one := performAll [.invoke 1 "entry", .close 0] two
    two.units.length = 2 ∧ two.world.files.entries.length = 3 ∧
      one.units.length = 1 ∧ one.world.files.entries.length = 2 := by
  decide +kernel

/-! ## Files that are there and are not found -/

/-- The library `libunit.so` in the current directory, spelled with `n` single dots in front. -/
def dotsBefore : Nat → Path
  | 0 => .ofString "libunit.so"
  | n + 1 => ⟨'.' :: '/' :: (dotsBefore n).chars⟩

/-- A dot and a slash are two bytes. -/
theorem byteSize_dotsBefore (n : Nat) : (dotsBefore n).byteSize = 2 * n + 10 := by
  induction n with
  | zero => decide
  | succ n ih =>
    have hdot : (String.ofList ['.', '/']).utf8ByteSize = 2 := by decide
    have hchars : (dotsBefore (n + 1)).chars = ['.', '/'] ++ (dotsBefore n).chars := rfl
    rw [Path.byteSize, Path.spelling] at ih ⊢
    rw [hchars, String.ofList_append, String.utf8ByteSize_append, ih, hdot]
    omega

/-- Each dot is a step. -/
theorem steps_dotsBefore_succ (n : Nat) :
    (dotsBefore (n + 1)).steps = ['.'] :: (dotsBefore n).steps := by
  have hsegments : Path.segments (dotsBefore (n + 1)).chars =
      ['.'] :: Path.segments (dotsBefore n).chars := Path.segments_append_slash ['.'] _
  rw [Path.steps, hsegments]
  rfl

/-- The dots lead nowhere. -/
theorem follow_dotsBefore (n : Nat) (loc : Location) :
    follow loc (dotsBefore n).steps = loc ++ ["libunit.so".toList] := by
  induction n with
  | zero => exact follow_of_isPlain (by decide) loc
  | succ n ih =>
    rw [steps_dotsBefore_succ, follow, next, if_pos rfl]
    exact ih

/-- A path that is too long names no file, whatever is there. -/
theorem isFile_of_tooLong {path : Path} (h : pathLimit < path.byteSize) (fs : FileSystem) :
    fs.isFile path = false := by
  rw [← Bool.not_eq_true, isFile_iff_reaches]
  rintro ⟨content, executable, hreaches⟩
  exact Nat.not_lt.mpr (checkPath_eq_ok_iff.mp hreaches.wellFormed).2.2 h

/-- A library in a closed directory and one in the current directory. -/
def withLibraries : World where
  files := {
    entries := [(["home".toList, "libunit.so".toList], .file (.image ⟨[]⟩) false),
      (["libunit.so".toList], .file (.image ⟨[]⟩) false), (["home".toList], .directory .closed)]
    here := [] }
  environment := ⟨[]⟩
  plans _ := ⟨[], .nothing, .exited 0⟩
  history := []

/-- Not every library that is reported as missing is missing: one is there in a directory that is
closed, and one is there whose path with 2043 dots has 4096 bytes, one more than paths can have. -/
theorem loading_misses_files :
    let fs := withLibraries.files
    ∀ path ∈ [Path.ofString "home/libunit.so", dotsBefore 2043],
      fs.node? (follow (fs.startOf path) path.steps) = some (.file (.image ⟨[]⟩) false) ∧
      (LoadedUnit.load path "unit" withLibraries).1 = .error (.missing path) := by
  intro fs
  have hclosed : fs.node? (follow (fs.startOf (.ofString "home/libunit.so"))
      (Path.ofString "home/libunit.so").steps) = some (.file (.image ⟨[]⟩) false) ∧
      fs.isFile (.ofString "home/libunit.so") = false := by
    decide
  have hrelative : (dotsBefore 2043).isAbsolute = false := rfl
  have hthere : fs.node? (follow (fs.startOf (dotsBefore 2043)) (dotsBefore 2043).steps) =
      some (.file (.image ⟨[]⟩) false) := by
    rw [follow_dotsBefore, startOf, hrelative]
    decide
  have hlong : pathLimit < (dotsBefore 2043).byteSize := by
    rw [byteSize_dotsBefore]
    decide
  simp only [List.forall_mem_cons, List.not_mem_nil, false_implies, implies_true, and_true]
  exact ⟨⟨hclosed.1, (LoadedUnit.load_of_missing hclosed.2).1⟩,
    hthere, (LoadedUnit.load_of_missing (isFile_of_tooLong hlong fs)).1⟩

end FragmentRunner.Loading
