import FragmentRunner.Proofs.Build.Stages
import FragmentRunner.Proofs.FileSystem.Descent

/-!
# Sources below the build directory

A source can be written under a relative path of any depth, in directories that are made for it. If
the path leads down, they are all between the build directory and the source, and they are all that
a source leaves behind that could not be written.

* `prepared_added`: the directories that are made for a source.
* `locate_below`: where a source is whose path leads down.
* `writeSource_below`: what such a source changes, whether or not it is written.
-/

namespace FragmentRunner.BuildDirectory

open FileSystem

variable {build : BuildDirectory} {relative : Path} {content : String} {dir : Location}
  {fs : FileSystem} {w : World} {e : IoError}

/-- What is no directory is not touched, nor is anything else. -/
theorem writeSource_of_no_directory (h : checkDirectory w.files build.directory = .error e) :
    build.writeSource relative content w = (.error (.io e), w) := by
  refine Effect.bind_of_error ?_
  rw [Effect.mapError, check_eq, h]

section Below

/-- What passes the check is a directory, and its path leads there. -/
theorem checkDirectory_eq_ok_iff {directory : Path} :
    checkDirectory fs directory = .ok () ↔ fs.isDirectory directory = true := by
  rw [checkDirectory, isDirectory]
  rcases fs.status directory with - | ⟨access⟩ | ⟨stored, executable⟩ <;> simp

/-- A path that names a directory leads to it. -/
theorem leadsTo_of_isDirectory {directory : Path} (hdirectory : fs.isDirectory directory = true)
    (hlocate : fs.locate directory = .ok dir) : fs.LeadsTo directory dir := by
  obtain ⟨loc, access, hloc, hnode⟩ := isDirectory_iff.mp hdirectory
  obtain rfl := Except.ok.inj (hlocate.symm.trans hloc)
  exact ⟨(locate_eq_ok_iff.mp hlocate).2, access, hnode⟩

variable (hrelative : relative.isAbsolute = false) (hup : Path.up ∉ relative.names)

include hrelative hup

/-- The directories for a source are created between the build directory and the source. -/
theorem prepared_added (hnames : relative.names ≠ []) (hne : build.directory.chars ≠ [])
    (hdir : fs.LeadsTo build.directory dir) :
    DirectoriesAdded fs (build.prepared relative fs).1 (between dir relative.names) := by
  rw [prepared]
  cases hparent : relative.parent? with
  | none => exact .refl fs
  | some parent =>
    simp only
    split_ifs with hempty
    · exact .refl fs
    · refine ensureFirst_added hdir (.of_parent hne hrelative hup hnames hparent ?_) _
      simpa using hempty

/-- A path that leads down leads to its names, one after the other, below the build directory; on
the way there are directories. -/
theorem locate_below {loc : Location} (hdir : fs.LeadsTo build.directory dir)
    (hne : build.directory.chars ≠ [])
    (hlocate : fs.locate (build.directory.join relative) = .ok loc) :
    loc = dir ++ relative.names ∧
      ∀ mid ∈ between dir relative.names, ∃ access, fs.node? mid = some (.directory access) := by
  obtain ⟨-, hwalk⟩ := locate_eq_ok_iff.mp hlocate
  rw [Path.steps_join_relative _ hrelative, startOf, Path.isAbsolute_join_relative hne hrelative,
    ← startOf, walk_append, hdir.walk] at hwalk
  have hdown := walk_filter_dots hwalk
  rw [← Path.names_eq_filter_steps] at hdown
  have hdot : ['.'] ∉ relative.names := by
    rw [Path.names_eq_filter_steps]
    simp
  exact ⟨walk_names hup hdot hdown, fun mid hmid => directory_between hup hdot hdown hmid⟩

end Below

/-- A source under a relative path without double dots stays below the build directory. If that is
no directory, nothing happens at all. Otherwise, if the source is written, it holds the content, the
directories on the way to it are there, and nothing else is different; and if it is not, some of
these directories may be there that were not before, and nothing is different apart from that. -/
theorem writeSource_below (build : BuildDirectory) {relative : Path}
    (hrelative : relative.isAbsolute = false) (hup : Path.up ∉ relative.names)
    (hnames : relative.names ≠ []) (content : String) (w : World) :
    (w.files.isDirectory build.directory = false →
      ∃ e, build.writeSource relative content w = (.error (.io e), w)) ∧
    ∀ dir, w.files.isDirectory build.directory = true →
      w.files.locate build.directory = .ok dir →
      (∀ source after, build.writeSource relative content w = (.ok source, after) →
        source = build.directory.join relative ∧
        after.files.content source = .ok (.text content) ∧
        after.files.locate source = .ok (dir ++ relative.names) ∧
        (∀ loc ∈ between dir relative.names,
          ∃ access, after.files.node? loc = some (.directory access)) ∧
        ∀ loc, loc ≠ dir ++ relative.names → after.files.node? loc = w.files.node? loc ∨
          loc ∈ between dir relative.names ∧ w.files.node? loc = none ∧
            after.files.node? loc = some (.directory .full)) ∧
      ∀ e after, build.writeSource relative content w = (.error e, after) →
        DirectoriesAdded w.files after.files (between dir relative.names) := by
  have hends := sourceEnds build relative content w
  refine ⟨fun hnone => ?_, fun dir hdirectory hlocate => ?_⟩
  · cases hcheck : checkDirectory w.files build.directory with
    | error e => exact ⟨e, writeSource_of_no_directory hcheck⟩
    | ok u =>
      rw [checkDirectory_eq_ok_iff.mp hcheck] at hnone
      cases hnone
  have hdir := leadsTo_of_isDirectory hdirectory hlocate
  have hne : build.directory.chars ≠ [] :=
    (checkPath_eq_ok_iff.mp (locate_eq_ok_iff.mp hlocate).1).2.1
  have hadded := prepared_added hrelative hup hnames hne hdir
  constructor
  · intro source after hwritten
    rw [hwritten] at hends
    cases hends with
    | written hcheck hprepared hwrite =>
    rw [hprepared] at hadded
    obtain ⟨loc, hloc⟩ := write_eq_ok hwrite
    obtain ⟨rfl, hbetween⟩ := locate_below hrelative hup (hdir.added hadded) hne hloc.locate_eq
    have hchanged := hloc.toChangedAt
    refine ⟨rfl, hloc.content_eq, hchanged.locate_eq_ok hloc.locate_eq, ?_, ?_⟩
    · intro mid hmid
      obtain ⟨access, hnode⟩ := hbetween mid hmid
      exact ⟨access, hchanged.directory hnode⟩
    · intro other hother
      rw [hchanged.elsewhere other hother]
      exact hadded.node other
  · intro e after hfailed
    rw [hfailed] at hends
    change SourceEnds build relative content w.files (.error e) after.files at hends
    generalize after.files = files at hends ⊢
    cases hends with
    | noDirectory hcheck => exact .refl _
    | notPrepared hcheck hprepared => rwa [hprepared] at hadded
    | notWritten hcheck hprepared hwrite => rwa [hprepared] at hadded

/-- A directory to build in that holds another one. -/
def nestedOutput : World where
  files := {
    entries := [
      (["out".toList], .directory .full),
      (["out".toList, "a".toList], .directory .full)]
    here := [] }
  environment := ⟨[]⟩
  plans _ := ⟨[], .nothing, .exited 0⟩
  history := []

/-- The source `a/b/c.rs` is written into a new directory in one that was there. No file has the
name `d/c.rs/`, which ends with a slash; nothing is written then. -/
theorem writeSource_below_nested :
    (∃ after, BuildDirectory.writeSource ⟨.ofString "out", {}⟩ (.ofString "a/b/c.rs") "unit"
        nestedOutput = (.ok (.ofString "out/a/b/c.rs"), after) ∧
      after.files.content (.ofString "out/a/b/c.rs") = .ok (.text "unit") ∧
      after.files.node? ["out".toList, "a".toList, "b".toList] = some (.directory .full) ∧
      after.files.node? ["out".toList] = some (.directory .full)) ∧
    ∃ after, BuildDirectory.writeSource ⟨.ofString "out", {}⟩ (.ofString "d/c.rs/") "unit"
        nestedOutput = (.error (.io .isADirectory), after) ∧
      after.files.node? ["out".toList, "d".toList, "c.rs".toList] = none := by
  obtain ⟨written, hwritten⟩ : ∃ after, BuildDirectory.writeSource ⟨.ofString "out", {}⟩
      (.ofString "a/b/c.rs") "unit" nestedOutput = (.ok (.ofString "out/a/b/c.rs"), after) :=
    ⟨_, Prod.ext (by decide +kernel) rfl⟩
  obtain ⟨failed, hfailed⟩ : ∃ after, BuildDirectory.writeSource ⟨.ofString "out", {}⟩
      (.ofString "d/c.rs/") "unit" nestedOutput = (.error (.io .isADirectory), after) :=
    ⟨_, Prod.ext (by decide +kernel) rfl⟩
  refine ⟨⟨written, hwritten, ?_⟩, failed, hfailed, ?_⟩
  · obtain ⟨-, hbelow⟩ := writeSource_below ⟨.ofString "out", {}⟩
      (by decide : (Path.ofString "a/b/c.rs").isAbsolute = false) (by decide) (by decide) "unit"
      nestedOutput
    obtain ⟨-, hcontent, -, hbetween, helsewhere⟩ :=
      (hbelow ["out".toList] (by decide) (by decide)).1 _ _ hwritten
    refine ⟨hcontent, ?_, ?_⟩
    · obtain ⟨access, hnode⟩ := hbetween ["out".toList, "a".toList, "b".toList]
        ⟨["a".toList, "b".toList], ["c.rs".toList], by decide, by decide, by decide, rfl⟩
      have hvacant : nestedOutput.files.node? ["out".toList, "a".toList, "b".toList] = none := by
        decide
      rcases helsewhere ["out".toList, "a".toList, "b".toList] (by decide) with hsame | hadded
      · cases hnode.symm.trans (hsame.trans hvacant)
      · exact hadded.2.2
    · rcases helsewhere ["out".toList] (by decide) with hsame | ⟨-, hvacant, -⟩
      · rw [hsame]
        decide
      · exact absurd hvacant (by decide)
  · obtain ⟨-, hbelow⟩ := writeSource_below ⟨.ofString "out", {}⟩
      (by decide : (Path.ofString "d/c.rs/").isAbsolute = false) (by decide) (by decide) "unit"
      nestedOutput
    have hadded := (hbelow ["out".toList] (by decide) (by decide)).2 _ _ hfailed
    rcases hadded.node ["out".toList, "d".toList, "c.rs".toList] with hsame | ⟨hmem, -, -⟩
    · rw [hsame]
      decide
    · -- The location of the file is not on the way to the file.
      obtain ⟨front, rest, hnames, -, hrest, hloc⟩ := hmem
      have hnames' : (Path.ofString "d/c.rs/").names = ["d".toList, "c.rs".toList] := by decide
      have hfront : ["out".toList] ++ ["d".toList, "c.rs".toList] = ["out".toList] ++ front := hloc
      rw [hnames', List.append_cancel_left hfront, List.self_eq_append_right] at hnames
      exact absurd hnames hrest

end FragmentRunner.BuildDirectory
