import FragmentRunner.OutputDirectory
import FragmentRunner.Proofs.FileSystem.CurrentDirectory

/-!
# Directories that are fit for output

What the check of an output directory finds depends on the files alone, and the check leaves nothing
behind. It returns another path than the one that was checked, spelled from the root, unless the
path of the current directory cannot be told (`Checked`). `Fit` is what is known about that path
where the path of the current directory leads there: it leads to the directory that was checked. But
it can be longer than the path that was checked, and if it is longer than paths can be, it names
nothing.

* `validate_eq`: the check as a function of the files.
* `verdict_eq_ok_iff`: which paths pass, and what they come out as.
* `Checked.fit`: what is known about the path that the check returns.
-/

namespace FragmentRunner

namespace FileSystem

variable {fs : FileSystem} {p : Path}

/-- A file can be created under a directory's path if it leads to one that allows it. -/
theorem createNameless_eq_ok_iff : fs.createNameless p = .ok () ↔
    ∃ loc, fs.locate p = .ok loc ∧ fs.node? loc = some (.directory .full) := by
  have hstatus : fs.createNameless p = .ok () ↔ fs.status p = .ok (.directory .full) := by
    rw [createNameless]
    rcases fs.status p with e | ⟨_ | _ | _⟩ | ⟨content, executable⟩ <;>
      simp [bind, Except.bind]
  simp only [hstatus, status_eq_ok_iff, Node.isDirectory, reduceCtorEq, false_implies, and_true]

end FileSystem

namespace OutputDirectory

open FileSystem

variable {fs : FileSystem} {path directory : Path} {w : World}

/-- What the check of a directory finds. -/
def verdict (fs : FileSystem) (path : Path) : Except OutputDirectoryError Path :=
  if fs.has path = false then .error (.missing path)
  else if fs.isDirectory path = false then .error (.notADirectory path)
  else
    match fs.createNameless path with
    | .ok () => .ok ((fs.absolute? path).getD path)
    | .error e => .error (.notWritable path e)

/-- The check finds out what it does from the files, and changes nothing. -/
theorem validate_eq (path : Path) (w : World) : validate path w = (verdict w.files path, w) := by
  rw [validate, verdict, Effect.bind_of_ok (show Effect.ask _ w = (.ok _, w) from rfl)]
  cases w.files.has path with
  | false => rfl
  | true =>
    rw [Bool.not_true, if_neg Bool.false_ne_true,
      Effect.bind_of_ok (show Effect.ask _ w = (.ok _, w) from rfl)]
    cases w.files.isDirectory path with
    | false => rfl
    | true =>
      rw [Bool.not_true, if_neg Bool.false_ne_true, Effect.bind_apply, Effect.mapError, probe]
      cases w.files.createNameless path <;> rfl

/-- A directory passes if its path leads to one in which files can be created. -/
theorem verdict_eq_ok_iff : verdict fs path = .ok directory ↔
    directory = (fs.absolute? path).getD path ∧
      ∃ loc, fs.locate path = .ok loc ∧ fs.node? loc = some (.directory .full) := by
  rw [← createNameless_eq_ok_iff, verdict]
  cases hcreate : fs.createNameless path with
  | error e => split_ifs <;> simp
  | ok u =>
    -- Where a file can be created there is a directory.
    obtain ⟨loc, hlocate, hnode⟩ := createNameless_eq_ok_iff.mp hcreate
    have hdirectory : fs.isDirectory path = true := isDirectory_iff.mpr ⟨loc, .full, hlocate, hnode⟩
    have hhas : fs.has path = true := by simp [has, status, hlocate, hnode, bind, Except.bind]
    simp [hhas, hdirectory, eq_comm]

/-- The path `directory` came out of the check of a path that led to a directory in which files
could be created. It is that path, spelled from the root if that can be done. -/
def Checked (fs : FileSystem) (directory : Path) : Prop :=
  ∃ path loc, fs.locate path = .ok loc ∧ fs.node? loc = some (.directory .full) ∧
    directory = (fs.absolute? path).getD path

/-- What the check returns has been checked. -/
theorem checked_of_verdict (h : verdict fs path = .ok directory) : Checked fs directory := by
  obtain ⟨hspelled, loc, hlocate, hnode⟩ := verdict_eq_ok_iff.mp h
  exact ⟨path, loc, hlocate, hnode, hspelled⟩

/-- A path that was checked is not empty. -/
theorem Checked.ne_nil (h : Checked fs directory) : directory.chars ≠ [] := by
  obtain ⟨path, loc, hlocate, -, rfl⟩ := h
  rw [absolute?]
  split_ifs
  · exact ne_nil_of_isAbsolute (Path.isAbsolute_absolute rfl)
  · exact (checkPath_eq_ok_iff.mp (locate_eq_ok_iff.mp hlocate).1).2.1

/-- Where the path of the current directory leads there, a directory that passes is spelled from the
root. -/
theorem verdict_eq_ok_iff_of_anchored (hanchored : fs.Anchored) :
    verdict fs path = .ok directory ↔ directory = Path.absolute fs.currentDirectory path ∧
      ∃ loc, fs.locate path = .ok loc ∧ fs.node? loc = some (.directory .full) := by
  rw [verdict_eq_ok_iff]
  refine and_congr_left ?_
  rintro ⟨loc, hlocate, -⟩
  rw [absolute?_of_locate (fun _ => hanchored) hlocate, Option.getD_some]

/-- The path `directory` is absolute and leads to a directory in which files can be created. It
names that directory if it is not longer than paths can be, and else it names nothing. -/
structure Fit (fs : FileSystem) (directory : Path) : Prop where
  absolute : directory.isAbsolute = true
  leads : ∃ loc, fs.walk [] directory.steps = .ok loc ∧ fs.node? loc = some (.directory .full)
  names : directory.byteSize ≤ pathLimit →
    fs.isDirectory directory = true ∧ fs.createNameless directory = .ok ()
  tooLong : pathLimit < directory.byteSize → fs.locate directory = .error .nameTooLong

/-- The path of a directory that was checked is fit, if that of the current directory leads
there. -/
theorem Checked.fit (h : Checked fs directory) (hanchored : fs.Anchored) : Fit fs directory := by
  obtain ⟨path, loc, hlocate, hnode, hdirectory⟩ := h
  rw [absolute?_of_locate (fun _ => hanchored) hlocate, Option.getD_some] at hdirectory
  obtain rfl := hdirectory
  have hspelled := locate_absolute (fun _ => hanchored) hlocate
  have hwalk := walk_absolute (fun _ => hanchored) hlocate
  refine ⟨Path.isAbsolute_absolute rfl, ⟨loc, hwalk, hnode⟩, ?_, ?_⟩
  · intro hshort
    rw [if_neg (Nat.not_lt.mpr hshort)] at hspelled
    exact ⟨isDirectory_iff.mpr ⟨loc, .full, hspelled, hnode⟩,
      createNameless_eq_ok_iff.mpr ⟨loc, hspelled, hnode⟩⟩
  · intro hlong
    rw [hspelled, if_pos hlong]

/-- An empty directory `out` in the current directory, which is `/srv`. -/
def withOutput : World where
  files := {
    entries := [(["srv".toList, "out".toList], .directory .full),
      (["srv".toList], .directory .full)]
    here := ["srv".toList] }
  environment := ⟨[]⟩
  plans _ := ⟨[], .nothing, .exited 1⟩
  history := []

/-- A directory `work` in one that is closed; the first one is the current directory. -/
def belowClosed : World :=
  { withOutput with files := {
      entries := [(["home".toList, "work".toList], .directory .full),
        (["home".toList], .directory .closed)]
      here := ["home".toList, "work".toList] } }

/-- The current directory was removed from `/srv`, so it has no name that could be spelled. -/
def removedHere : World :=
  { withOutput with files := {
      entries := [(["srv".toList, "/".toList], .directory .readOnly),
        (["srv".toList], .directory .full)]
      here := ["srv".toList, "/".toList] } }

/-- The path of the current directory is `/srv`, which is where it leads. -/
theorem anchored_withOutput : withOutput.files.Anchored := ⟨by decide, by decide⟩

/-- The directory passes, and is spelled from the root. -/
theorem validate_withOutput :
    (validate (.ofString "out") withOutput).1 = .ok (.ofString "/srv/out") := by decide

example : (validate (.ofString "./out/../out/") withOutput).1 =
    .ok (.ofString "/srv/out/../out/") := by decide

end OutputDirectory

end FragmentRunner
