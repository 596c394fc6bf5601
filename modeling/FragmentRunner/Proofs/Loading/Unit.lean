import FragmentRunner.LoadedUnit
import FragmentRunner.Proofs.Effect.Yields
import FragmentRunner.Proofs.FileSystem.CurrentDirectory
import FragmentRunner.Proofs.FileSystem.Nested

/-!
# Loading one unit

A unit is opened from a copy of its library that lies beside the library. How a load ends depends on
the files alone: `LoadEnds` has one rule for each way. The files are different afterwards only if
the unit was opened, and then by one new file, which is the copy (`OneCopy`). Closing the unit
removes it.

* `stage_yields`: the staging file is created and written to, and removed if it is not completed.
* `loadEnds_iff`: the rules are exactly what `load` does.
* `LoadEnds.exists_oneCopy`: what the files are after a unit was opened.
* `invoke_of_none` and `invoke_of_some`: a call leaves the files alone.
-/

namespace FragmentRunner

namespace LoadedUnit

open FileSystem

/-- The name for a copy of the library of the unit `name`, with `letters` in it. -/
def copyName (name : String) (letters : Name) : Name :=
  name.toList ++ ['-'] ++ letters ++ ".so".toList

/-- Creates the staging file for the unit `name`, beside `library`. -/
def stagingFile (fs : FileSystem) (library : Path) (name : String) :
    Except IoError (Path × FileSystem) :=
  fs.createUnique (library.parent?.getD ⟨['.']⟩) (name.toList ++ ['-']) ".so".toList

/-- Copies `content` to a file of its own beside `library`, for the unit `name`: the file is created
empty and then written to. -/
def copyBeside (fs : FileSystem) (library : Path) (name : String) (content : Content) :
    Except IoError (Path × FileSystem) := do
  let (copy, created) ← stagingFile fs library name
  let after ← created.write copy content
  return (copy, after)

/-- How the loading of the unit `name` from `library` ends, and which files it leaves. -/
inductive LoadEnds (fs : FileSystem) (library : Path) (name : String) :
    Except LoadError LoadedUnit → FileSystem → Prop
  | missing (h : fs.isFile library = false) :
      LoadEnds fs library name (.error (.missing library)) fs
  | notStaged {e : IoError} (hfile : fs.isFile library = true)
      (h : stagingFile fs library name = .error e) :
      LoadEnds fs library name (.error (.notStaged e)) fs
  /-- The library can be read no further than `legible`, and neither copied. -/
  | notCopied {legible : List UInt8} {e : IoError} {copy : Path} {after : FileSystem}
      (hfile : fs.content library = .ok (.damaged legible e))
      (h : copyBeside fs library name (.bytes legible) = .ok (copy, after)) :
      LoadEnds fs library name (.error (.notStaged e)) fs
  | notOpened {bytes : List UInt8} {copy : Path} {after : FileSystem}
      (hfile : fs.content library = .ok (.bytes bytes))
      (h : copyBeside fs library name (.bytes bytes) = .ok (copy, after)) :
      LoadEnds fs library name (.error .notOpened) fs
  | opened {image : Image} {copy : Path} {after : FileSystem}
      (hfile : fs.content library = .ok (.image image))
      (h : copyBeside fs library name (.image image) = .ok (copy, after)) :
      LoadEnds fs library name (.ok ⟨name, image, copy⟩) after

section Load

variable {w : World} {fs created after : FileSystem} {library copy : Path} {name : String}
  {content : Content} {r : Except LoadError LoadedUnit} {e : IoError}

/-! ## Staging -/

/-- A staging file that was created can be written to. -/
theorem exists_copyBeside_of_stagingFile (h : stagingFile fs library name = .ok (copy, created))
    (content : Content) : ∃ after, created.write copy content = .ok after ∧
      copyBeside fs library name content = .ok (copy, after) := by
  obtain ⟨found, tries, -, -, hcreate⟩ := createUnique_eq_ok h
  obtain ⟨after, hwrite, -⟩ := write_of_createFile hcreate content
  exact ⟨after, hwrite, by simp [copyBeside, h, hwrite, bind, Except.bind, pure, Except.pure]⟩

/-- A copy is made in a staging file. -/
theorem copyBeside_eq_ok (h : copyBeside fs library name content = .ok (copy, after)) :
    ∃ created, stagingFile fs library name = .ok (copy, created) ∧
      created.write copy content = .ok after := by
  rw [copyBeside] at h
  cases hstaged : stagingFile fs library name with
  | error e => simp [hstaged, bind, Except.bind] at h
  | ok staged =>
    obtain ⟨path, created⟩ := staged
    obtain ⟨after', hwrite, -⟩ := exists_copyBeside_of_stagingFile hstaged content
    simp only [hstaged, hwrite, bind, Except.bind, pure, Except.pure, Except.ok.injEq,
      Prod.mk.injEq] at h
    obtain ⟨rfl, rfl⟩ := h
    exact ⟨created, rfl, hwrite⟩

/-- A copy is a new file in the directory for it, under a name made for it. -/
theorem exists_createFile_of_copyBeside
    (h : copyBeside fs library name content = .ok (copy, after)) :
    fs.createFile copy content = .ok after ∧ ∃ found letters, '/' ∉ letters ∧
      fs.directoryFor (library.parent?.getD ⟨['.']⟩) = .ok found ∧
      copy = found.join ⟨copyName name letters⟩ := by
  obtain ⟨created, hstaged, hwrite⟩ := copyBeside_eq_ok h
  obtain ⟨found, tries, hfound, hcopy, hcreate⟩ := createUnique_eq_ok hstaged
  obtain ⟨after', hwrite', hcreate'⟩ := write_of_createFile hcreate content
  obtain rfl := Except.ok.inj (hwrite.symm.trans hwrite')
  exact ⟨hcreate', found, _, fs.names.noSlash fs.entries tries, hfound, hcopy⟩

/-- A copy is read back as it was written, and removing it restores the files. -/
theorem copyBeside_restored (h : copyBeside fs library name content = .ok (copy, after)) :
    after.content copy = .ok content ∧ after.removeFile copy = fs := by
  obtain ⟨hcreate, -⟩ := exists_createFile_of_copyBeside h
  obtain ⟨loc, hwritten, -, -⟩ := createFile_eq_ok hcreate
  exact ⟨hwritten.content_eq, removeFile_of_createFile hcreate⟩

/-- The staging file is removed, and nothing else. -/
theorem unstage_yields {ε : Type} (copy : Path) (w : World) :
    (unstage copy : Effect ε Unit).Yields w (.ok ()) (w.files.removeFile copy) [] :=
  .of_eq rfl (.of_files w _)

/-- A library is not staged if its staging file cannot be created. -/
theorem stage_of_error (h : stagingFile w.files library name = .error e) :
    (stage library name).Yields w (.error (.notStaged e)) w.files [] := by
  have hcreate : createStaged library name w = (.error e, w) := by
    rw [stagingFile] at h
    simp only [createStaged, h]
  exact .bind_error (.mapError _ (.of_eq hcreate (.refl w)))

/-- A library is staged if it can be read to its end. If not, its staging file is removed again. -/
theorem stage_yields (hfile : w.files.content library = .ok content)
    (h : copyBeside w.files library name content.legible = .ok (copy, after)) :
    (stage library name).Yields w
      (match content.fault? with
        | none => .ok copy
        | some cause => .error (.notStaged cause))
      (if content.fault?.isNone then after else w.files) [] := by
  obtain ⟨-, hremoved⟩ := copyBeside_restored h
  obtain ⟨created, hstaged, hwrite⟩ := copyBeside_eq_ok h
  obtain ⟨-, -, -, -, hcreated⟩ := createUnique_eq_ok hstaged
  have hcreate : createStaged library name w = (.ok copy, { w with files := created }) := by
    rw [stagingFile] at hstaged
    simp only [createStaged, hstaged]
  refine .bind_quiet (.mapError _ (.of_eq hcreate (.of_files w created))) fun w₁ hw₁ => ?_
  -- The staging file is there, and the library is still what it was.
  have hcopied := copy_of_write (content_of_createFile hcreated hfile) hwrite
  rw [← hw₁.files] at hcopied
  refine .bind_quiet (.attempt (.changeAnyway hcopied)) fun w₂ hw₂ => ?_
  cases content.fault? with
  | none =>
    rw [← hw₂.files]
    exact .pure copy w₂
  | some cause =>
    refine .bind_quiet (unstage_yields copy w₂) fun w₃ hw₃ => ?_
    rw [hw₂.files, hremoved] at hw₃
    rw [← hw₃.files]
    exact .fail _ w₃

/-! ## Loading -/

/-- Where no file stands nothing is loaded. -/
theorem load_of_missing (h : w.files.isFile library = false) :
    (load library name).Yields w (.error (.missing library)) w.files [] := by
  refine .bind_quiet (.ask _ w) fun w₁ hw₁ => ?_
  rw [← hw₁.files] at h ⊢
  simp only [h]
  exact .fail _ w₁

/-- A library that is not staged is not loaded. -/
theorem load_of_stage_error {e : LoadError} (hfile : w.files.isFile library = true)
    (h : ∀ w₁, w.Becomes w.files [] w₁ →
      (stage library name).Yields w₁ (.error e) w.files []) :
    (load library name).Yields w (.error e) w.files [] := by
  refine .bind_quiet (.ask _ w) fun w₁ hw₁ => ?_
  simp only [hfile, if_true]
  exact .bind_error (h w₁ hw₁)

/-- The copy is opened as the image that it holds, or it is removed again. -/
theorem load_of_staged (hfile : w.files.content library = .ok content)
    (hintact : content.fault? = none)
    (h : copyBeside w.files library name content = .ok (copy, after)) :
    (load library name).Yields w
      (match content.image? with
        | some image => .ok ⟨name, image, copy⟩
        | none => .error .notOpened)
      (if content.image?.isSome then after else w.files) [] := by
  have hexists := isFile_of_content hfile
  obtain ⟨hcopy, hremoved⟩ := copyBeside_restored h
  have hlegible : content.legible = content := by
    cases content with
    | damaged => cases hintact
    | bytes | image => rfl
  refine .bind_quiet (.ask _ w) fun w₁ hw₁ => ?_
  rw [← hw₁.files] at hfile h hexists hremoved ⊢
  simp only [hexists, if_true]
  have hstage := stage_yields hfile (hlegible.symm ▸ h)
  simp only [hintact, Option.isNone_none, if_true] at hstage
  refine .bind_quiet hstage fun w₂ hw₂ => ?_
  refine .bind_quiet (.debug _ w₂) fun w₃ hw₃ => ?_
  refine .bind_quiet (.ask _ w₃) fun w₄ hw₄ => ?_
  -- From here on the files are those with the copy.
  rw [← hw₂.files, ← hw₃.files] at hcopy hremoved ⊢
  have hopen : openStaged? copy w₃ = content.image? := by
    rw [openStaged?, hcopy]
    rfl
  rw [hopen]
  rw [← hw₄.files] at hremoved ⊢
  cases himage : content.image? with
  | some image => exact .pure _ w₄
  | none =>
    rw [← hremoved]
    exact .bind_quiet (unstage_yields copy w₄) fun w₅ hw₅ => by
      rw [← hw₅.files]
      exact .fail _ w₅

/-- Each rule is a way in which a load can end. -/
theorem LoadEnds.yields (h : LoadEnds w.files library name r fs) :
    (load library name).Yields w r fs [] := by
  cases h with
  | missing h => exact load_of_missing h
  | notStaged hfile h =>
    refine load_of_stage_error hfile fun w₁ hw₁ => ?_
    rw [← hw₁.files] at h ⊢
    exact stage_of_error h
  | notCopied hfile h =>
    refine load_of_stage_error (isFile_of_content hfile) fun w₁ hw₁ => ?_
    rw [← hw₁.files] at hfile h ⊢
    exact stage_yields hfile h
  | notOpened hfile h => exact load_of_staged hfile rfl h
  | opened hfile h => exact load_of_staged hfile rfl h

/-- Some rule applies to every load. -/
theorem exists_loadEnds (fs : FileSystem) (library : Path) (name : String) :
    ∃ r after, LoadEnds fs library name r after := by
  -- The stages are passed up to the first that fails.
  cases hfile : fs.isFile library with
  | false => exact ⟨_, _, .missing hfile⟩
  | true =>
    obtain ⟨content, hcontent⟩ := exists_content_of_isFile hfile
    cases hstaged : stagingFile fs library name with
    | error e => exact ⟨_, _, .notStaged hfile hstaged⟩
    | ok staged =>
      obtain ⟨after, -, hcopied⟩ := exists_copyBeside_of_stagingFile hstaged content.legible
      cases content with
      | bytes bytes => exact ⟨_, _, .notOpened hcontent hcopied⟩
      | image image => exact ⟨_, _, .opened hcontent hcopied⟩
      | damaged legible cause => exact ⟨_, _, .notCopied hcontent hcopied⟩

/-- The rules are exactly what `load` does. -/
theorem loadEnds_iff : LoadEnds w.files library name r fs ↔
    (load library name).Yields w r fs [] := by
  refine ⟨LoadEnds.yields, fun h => ?_⟩
  obtain ⟨r', fs', hends⟩ := exists_loadEnds w.files library name
  obtain ⟨rfl, rfl, -⟩ := h.unique hends.yields
  exact hends

/-- Every load ends by one of the rules. -/
theorem loadEnds_load (library : Path) (name : String) (w : World) :
    LoadEnds w.files library name (load library name w).1 (load library name w).2.files := by
  obtain ⟨r, fs, hends⟩ := exists_loadEnds w.files library name
  rwa [hends.yields.1, hends.yields.2.files]

/-- A load reports a missing library if and only if its path names no regular file. -/
theorem LoadEnds.missing_iff (h : LoadEnds fs library name r after) {path : Path} :
    r = .error (.missing path) ↔ path = library ∧ fs.isFile library = false := by
  cases h with
  | missing h => simp [h, eq_comm]
  | notStaged hfile h => simp [hfile]
  | notCopied hfile h => simp [isFile_of_content hfile]
  | notOpened hfile h => simp [isFile_of_content hfile]
  | opened hfile h => simp [isFile_of_content hfile]

/-- A load that fails leaves the files as they were. -/
theorem LoadEnds.files_eq {e : LoadError} (h : LoadEnds fs library name (.error e) after) :
    after = fs := by
  cases h with
  | missing | notStaged | notCopied | notOpened => rfl

end Load

/-! ## The copy -/

section Copy

variable {fs after : FileSystem} {library : Path} {name : String} {unit : LoadedUnit}

/-- After the unit `name` was opened from `library` there is one more file than before, at `loc`,
which is the copy. -/
structure OneCopy (fs : FileSystem) (library : Path) (name : String) (unit : LoadedUnit)
    (after : FileSystem) (loc : Location) : Prop where
  /-- The unit is what the library holds. -/
  image : fs.content library = .ok (.image unit.image)
  /-- Nothing stood where the copy is. -/
  vacant : fs.node? loc = none
  /-- The copy holds the same as the library, and everything else is as before. -/
  written : WrittenAt fs after unit.staged (.image unit.image) loc
  /-- The copy is named after the unit. -/
  named : ∃ above letters, loc = above ++ [copyName name letters]
  /-- The copy is in the directory of the library. -/
  beside : fs.Nested → ∃ place, fs.locate library = .ok place ∧ loc.dropLast = place.dropLast
  /-- Without the copy the files are those of before. -/
  removed : after.removeFile unit.staged = fs

/-- The name of a copy is plain. -/
theorem isPlain_copyName {letters : Name} (hname : '/' ∉ name.toList) (hletters : '/' ∉ letters) :
    Path.IsPlain (copyName name letters) := by
  -- It is longer than a name that is empty or no more than dots.
  have hlength : 4 ≤ (copyName name letters).length := by
    simp [copyName]
    omega
  have hne : ∀ short : Name, short.length < 4 → copyName name letters ≠ short := by
    rintro short hshort rfl
    omega
  refine ⟨hne _ (by decide), hne _ (by decide), hne _ (by decide), ?_⟩
  simp only [copyName, List.mem_append, not_or]
  exact ⟨⟨⟨hname, by decide⟩, hletters⟩, by decide⟩

/-- The directory that a library is in is the one that its parent leads to. -/
theorem walk_parent (hnested : fs.Nested) (hfile : fs.isFile library = true) :
    ∃ place, fs.locate library = .ok place ∧
      fs.walk (fs.startOf (library.parent?.getD ⟨['.']⟩)) (library.parent?.getD ⟨['.']⟩).steps =
        .ok place.dropLast := by
  obtain ⟨place, content, executable, hlocate, hslash, hnode⟩ := isFile_iff.mp hfile
  -- A file has a plain name, so the parent of its path leads to the directory that it is in.
  obtain ⟨directory, last, hlast, rfl⟩ := hnested.exists_join hlocate hslash (by simp [hnode])
  obtain ⟨parent, above, hparent, -, hwalk, -, rfl⟩ := exists_parent_of_locate_join hlast hlocate
  refine ⟨_, hlocate, ?_⟩
  rw [List.dropLast_concat, hparent, Option.getD_some]
  exact hwalk

/-- A unit that was opened has left its copy, under whatever name it was loaded. -/
theorem LoadEnds.exists_written (h : LoadEnds fs library name (.ok unit) after) :
    ∃ loc, WrittenAt fs after unit.staged (.image unit.image) loc ∧ fs.node? loc = none := by
  cases h with
  | opened hfile h =>
    obtain ⟨hcreate, -⟩ := exists_createFile_of_copyBeside h
    obtain ⟨loc, hwritten, hvacant, -⟩ := createFile_eq_ok hcreate
    exact ⟨loc, hwritten, hvacant⟩

/-- A unit that was opened has left its copy beside the library, and nothing else. -/
theorem LoadEnds.exists_oneCopy (hname : '/' ∉ name.toList)
    (h : LoadEnds fs library name (.ok unit) after) :
    ∃ loc, OneCopy fs library name unit after loc := by
  obtain ⟨loc, hwritten, hvacant⟩ := h.exists_written
  cases h with
  | opened hfile h =>
    obtain ⟨hcreate, found, letters, hletters, hfound, rfl⟩ := exists_createFile_of_copyBeside h
    -- The name of the copy is plain, so the copy is right below the directory for it.
    obtain ⟨above, hwalk, -, rfl⟩ :=
      locate_join_eq_ok (isPlain_copyName hname hletters) hwritten.locate_eq
    refine ⟨_, hfile, hvacant, hwritten, ⟨above, letters, rfl⟩, fun hnested => ?_,
      removeFile_of_createFile hcreate⟩
    obtain ⟨place, hplace, hparent⟩ := walk_parent hnested (isFile_of_content hfile)
    have habove := walk_of_directoryFor hfound hwalk
    obtain rfl := Except.ok.inj (habove.symm.trans hparent)
    exact ⟨place, hplace, List.dropLast_concat⟩

end Copy

/-! ## Calling and closing -/

section Call

variable {unit : LoadedUnit} {symbol : String} {w : World}

/-- An entry point that the image does not export is not called. -/
theorem invoke_of_none
    (h : unit.image.status? (String.ofList (readSymbol symbol)) = none) :
    (unit.invoke symbol).Yields w (.error (.symbolNotFound symbol)) w.files [] := by
  rw [invoke, h]
  exact .fail _ w

/-- An entry point that the image exports is called once, and its status decides the result. -/
theorem invoke_of_some {status : Int32}
    (h : unit.image.status? (String.ofList (readSymbol symbol)) = some status) :
    (unit.invoke symbol).Yields w (Completion.ofStatus status) w.files
      [.called (String.ofList (readSymbol symbol))] := by
  rw [invoke, h]
  refine .bind_quiet (.debug _ w) fun w₁ hw₁ => ?_
  refine .bind_last (.record _ w₁) fun w₂ hw₂ => ?_
  rw [← hw₁.files, ← hw₂.files]
  exact .ofExcept _ w₂

/-- A call leaves the files alone. -/
theorem files_invoke (unit : LoadedUnit) (symbol : String) (w : World) :
    (unit.invoke symbol w).2.files = w.files := by
  cases h : unit.image.status? (String.ofList (readSymbol symbol)) with
  | none => exact (invoke_of_none h).2.files
  | some status => exact (invoke_of_some h).2.files

end Call

end LoadedUnit

end FragmentRunner
