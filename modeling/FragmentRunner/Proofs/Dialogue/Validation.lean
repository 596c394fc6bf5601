import FragmentRunner.Proofs.Dialogue.Directory
import FragmentRunner.Proofs.Path.Respelling

/-!
# Checking an output directory again

The check of an output directory tells apart what its path can be followed to: nothing, a file, a
directory in which nothing can be created, and one that is fit. It returns the path of a fit
directory spelled from the root, and that path passes the check in its turn and comes out as it is.
Two things can keep it from that. A path that is spelled from the root can be longer than paths can
be, and it comes by the directories above the current one, which may be closed. Then it cannot be
followed to anything. Where a path cannot be spelled from the root it comes out as it was given, and
passes again.

* `verdict_by_reaches`: the verdict by what the path can be followed to.
* `chars_of_absolute?` and `absolute?_of_absolute?`: how a path is spelled from the root, and that
  it is spelled so once more.
* `verdict_of_found` and `verdict_of_not_found`: the verdict on a path that came out of the check.
* `check_repeats`: the four verdicts, and the check of a path that came out of it.
* `check_does_not_repeat`: paths that come out of the check and do not pass it.
-/

namespace FragmentRunner

namespace FileSystem

variable {fs : FileSystem} {p q : Path}

/-- A path that is spelled from the root is spelled from a directory under plain names. For an
absolute path any such directory will do. -/
theorem exists_here_of_absolute? (h : fs.absolute? p = some q) :
    ∃ here, (∀ name ∈ here, Path.IsPlain name) ∧
      Path.spelledFromRoot here p = Path.spelledFromRoot fs.here p ∧
      q = Path.absolute (Path.root.extend here) p := by
  rw [absolute?] at h
  cases habsolute : p.isAbsolute with
  | true =>
    rw [habsolute, Bool.true_or, if_pos rfl, Option.some.injEq] at h
    refine ⟨[], fun _ hname => absurd hname List.not_mem_nil, ?_, ?_⟩
    · simp only [Path.spelledFromRoot, Path.namesFromRoot, habsolute, if_true]
    · rw [← h, Path.absolute_of_isAbsolute habsolute]
  | false =>
    rw [habsolute, Bool.false_or] at h
    split_ifs at h with hrooted
    have hplain := isPlain_of_isRooted hrooted
    exact ⟨fs.here, hplain, rfl, by rw [← Option.some.inj h, currentDirectory_eq hplain]⟩

/-- The text of a path that is spelled from the root. -/
theorem chars_of_absolute? (h : fs.absolute? p = some q) :
    q.isAbsolute = true ∧ q.chars = Path.spelledFromRoot fs.here p := by
  obtain ⟨here, hplain, hspelled, rfl⟩ := exists_here_of_absolute? h
  exact ⟨Path.isAbsolute_absolute (Path.isAbsolute_extend rfl here),
    (Path.chars_absolute hplain p).trans hspelled⟩

/-- A path that is spelled from the root stays as it is when it is spelled from there again. -/
theorem absolute?_of_absolute? (h : fs.absolute? p = some q) : fs.absolute? q = some q := by
  have habsolute := (chars_of_absolute? h).1
  obtain ⟨here, hplain, -, rfl⟩ := exists_here_of_absolute? h
  rw [absolute?, habsolute, Bool.true_or, if_pos rfl,
    Path.absolute_of_isAbsolute habsolute _ (Path.root.extend here),
    Path.absolute_absolute hplain p]

/-- A path can be spelled from the root if it starts there, or if the current directory is in the
tree. -/
theorem absolute?_eq_none_iff :
    fs.absolute? p = none ↔ p.isAbsolute = false ∧ fs.isRooted = false := by
  simp [absolute?]

end FileSystem

namespace OutputDirectory

open FileSystem

variable {fs : FileSystem} {path directory : Path} {w : World}

/-- The verdict on a path is decided by what it names. -/
theorem verdict_eq (fs : FileSystem) (path : Path) : verdict fs path =
    match fs.status path with
    | .error _ => .error (.missing path)
    | .ok (.file ..) => .error (.notADirectory path)
    | .ok (.directory .full) => .ok ((fs.absolute? path).getD path)
    | .ok (.directory _) => .error (.notWritable path .permissionDenied) := by
  rw [verdict, has, isDirectory, createNameless]
  rcases fs.status path with e | ⟨_ | _ | _⟩ | ⟨content, executable⟩ <;> rfl

/-- Each verdict is given if and only if the path can be followed to what it says. -/
theorem verdict_by_reaches (fs : FileSystem) (path : Path) :
    (∀ q, verdict fs path = .error (.missing q) ↔ q = path ∧ ∀ node, ¬ fs.Reaches path node) ∧
    (∀ q, verdict fs path = .error (.notADirectory q) ↔
      q = path ∧ ∃ content executable, fs.Reaches path (.file content executable)) ∧
    (∀ q e, verdict fs path = .error (.notWritable q e) ↔ q = path ∧ e = .permissionDenied ∧
      ∃ access, access ≠ .full ∧ fs.Reaches path (.directory access)) ∧
    ∀ directory, verdict fs path = .ok directory ↔
      directory = (fs.absolute? path).getD path ∧ fs.Reaches path (.directory .full) := by
  simp only [← status_eq_ok_iff_reaches, verdict_eq]
  rcases fs.status path with e | ⟨_ | _ | _⟩ | ⟨content, executable⟩ <;> simp [eq_comm]

/-- A path that cannot be followed to anything is missing. -/
theorem verdict_of_not_reaches (h : ∀ node, ¬ fs.Reaches path node) :
    verdict fs path = .error (.missing path) :=
  ((verdict_by_reaches fs path).1 path).mpr ⟨rfl, h⟩

/-- A path that came out of the check names the same directory if it is not too long and its start
can be reached from the root, and then it comes out of the check again. -/
theorem verdict_of_found (h : verdict fs path = .ok directory)
    (hshort : directory.byteSize ≤ pathLimit) (hfound : fs.StartFound path) :
    (∃ loc, fs.locate path = .ok loc ∧ fs.locate directory = .ok loc) ∧
      verdict fs directory = .ok directory := by
  obtain ⟨hdirectory, loc, hlocate, hnode⟩ := verdict_eq_ok_iff.mp h
  cases hspelled : fs.absolute? path with
  | none =>
    -- The path is as it was.
    rw [hspelled, Option.getD_none] at hdirectory
    exact ⟨⟨loc, hlocate, hdirectory ▸ hlocate⟩, hdirectory ▸ h⟩
  | some spelled =>
    have hanchored := (startFound_iff hspelled).mp hfound
    have hsame := locate_absolute hanchored hlocate
    rw [hspelled, Option.getD_some] at hdirectory
    obtain rfl := hdirectory
    have hself := absolute?_of_absolute? hspelled
    rw [absolute?_of_locate hanchored hlocate, Option.some.injEq] at hspelled
    rw [hspelled, if_neg (Nat.not_lt.mpr hshort)] at hsame
    exact ⟨⟨loc, hlocate, hsame⟩,
      verdict_eq_ok_iff.mpr ⟨by rw [hself, Option.getD_some], loc, hsame, hnode⟩⟩

/-- Else the path that came out of the check cannot be followed to anything. -/
theorem not_reaches_of_not_found (h : verdict fs path = .ok directory)
    (hfound : ¬ (directory.byteSize ≤ pathLimit ∧ fs.StartFound path)) (node : Node) :
    ¬ fs.Reaches directory node := by
  obtain ⟨hdirectory, loc, hlocate, -⟩ := verdict_eq_ok_iff.mp h
  intro hreaches
  obtain ⟨place, hplace, -, -⟩ := status_eq_ok_iff.mp (status_eq_ok_iff_reaches.mpr hreaches)
  obtain ⟨hcheck, hwalk⟩ := locate_eq_ok_iff.mp hplace
  refine hfound ⟨(checkPath_eq_ok_iff.mp hcheck).2.2, ?_⟩
  cases hspelled : fs.absolute? path with
  | none =>
    -- The start of such a path does not matter.
    intro _ hrooted
    rw [(absolute?_eq_none_iff.mp hspelled).2] at hrooted
    cases hrooted
  | some spelled =>
    rw [hspelled, Option.getD_some] at hdirectory
    have habsolute := (chars_of_absolute? hspelled).1
    rw [hdirectory, startOf, habsolute, if_pos rfl] at hwalk
    rw [absolute?] at hspelled
    split_ifs at hspelled
    rw [← Option.some.inj hspelled] at hwalk
    exact startFound_of_walk_absolute hwalk

/-- The check reports a path as missing if and only if it cannot be followed to anything, as no
directory if and only if it can be followed to a file, and as not writable if and only if it can be
followed to a directory in which nothing can be created; it changes nothing. A directory that passes
comes out under its path from the root if the path is absolute or the current directory is in the
tree: idle segments are dropped, double dots and a slash at the end are kept, and so are exactly two
slashes at the beginning. Otherwise it comes out under the path as it was given. If this is not too
long for a path, and no closed directory is on the way from the root to its start, it names the same
directory, and passes the check as it is; else it cannot be followed to anything. -/
theorem check_repeats (path : Path) (w : World) :
    let fs := w.files
    let result := (validate path w).1
    (validate path w).2 = w ∧
    (∀ q, result = .error (.missing q) ↔ q = path ∧ ∀ node, ¬ fs.Reaches path node) ∧
    (∀ q, result = .error (.notADirectory q) ↔
      q = path ∧ ∃ content executable, fs.Reaches path (.file content executable)) ∧
    (∀ q e, result = .error (.notWritable q e) ↔ q = path ∧ e = .permissionDenied ∧
      ∃ access, access ≠ .full ∧ fs.Reaches path (.directory access)) ∧
    (∀ directory, result = .ok directory ↔
      directory = (fs.absolute? path).getD path ∧ fs.Reaches path (.directory .full)) ∧
    (∀ directory, result = .ok directory →
      (path.isAbsolute = true ∨ fs.isRooted = true →
        directory.isAbsolute = true ∧ directory.chars = Path.spelledFromRoot fs.here path) ∧
      (path.isAbsolute = false → fs.isRooted = false → directory = path) ∧
      (directory.byteSize ≤ pathLimit ∧ fs.StartFound path →
        (∃ loc, fs.locate path = .ok loc ∧ fs.locate directory = .ok loc) ∧
          validate directory w = (.ok directory, w)) ∧
      (¬ (directory.byteSize ≤ pathLimit ∧ fs.StartFound path) →
        (∀ node, ¬ fs.Reaches directory node) ∧
          validate directory w = (.error (.missing directory), w))) := by
  intro fs result
  have hresult : result = verdict fs path := by
    simp only [result, fs, validate_eq]
  rw [hresult]
  obtain ⟨hmissing, hfile, hunwritable, hfit⟩ := verdict_by_reaches fs path
  refine ⟨by rw [validate_eq], hmissing, hfile, hunwritable, hfit, fun directory hdirectory => ?_⟩
  obtain ⟨hspelled, -⟩ := (hfit directory).mp hdirectory
  refine ⟨fun htold => ?_, fun hrelative hrooted => ?_, fun ⟨hshort, hfound⟩ => ?_,
    fun hfound => ?_⟩
  · obtain ⟨spelled, hsome⟩ : ∃ spelled, fs.absolute? path = some spelled := by
      rw [← Option.ne_none_iff_exists', ne_eq, absolute?_eq_none_iff]
      rcases htold with habsolute | hrooted
      · simp [habsolute]
      · simp [hrooted]
    rw [hsome, Option.getD_some] at hspelled
    exact hspelled ▸ chars_of_absolute? hsome
  · rw [absolute?_eq_none_iff.mpr ⟨hrelative, hrooted⟩, Option.getD_none] at hspelled
    exact hspelled
  · obtain ⟨hsame, hagain⟩ := verdict_of_found hdirectory hshort hfound
    exact ⟨hsame, by rw [validate_eq, hagain]⟩
  · have hnothing := not_reaches_of_not_found hdirectory hfound
    exact ⟨hnothing, by rw [validate_eq, verdict_of_not_reaches hnothing]⟩

/-- A path with all that is dropped and all that is kept passes twice. -/
theorem check_repeats_oddly_spelled :
    let directory := Path.ofString "/srv/out/../out/"
    (validate (.ofString ".//out/./..///out//") withOutput).1 = .ok directory ∧
    validate directory withOutput = (.ok directory, withOutput) := by
  intro directory
  have hfirst : (validate (.ofString ".//out/./..///out//") withOutput).1 = .ok directory := by
    decide +kernel
  have hrooted : withOutput.files.isRooted = true := by decide
  obtain ⟨-, -, -, -, -, hagain⟩ := check_repeats (.ofString ".//out/./..///out//") withOutput
  obtain ⟨-, -, hfound, -⟩ := hagain directory hfirst
  obtain ⟨-, hpasses⟩ := hfound ⟨by decide +kernel, fun _ _ =>
    (anchored_iff_of_isRooted hrooted).mp anchored_withOutput⟩
  exact ⟨hfirst, hpasses⟩

/-- Not every path that comes out of the check passes it, nor is every one absolute, nor is all
missing that is reported so. The path that winds 584 times passes the check and comes out with 4096
bytes, one more than paths can have. In a directory below a closed one the dot passes, while the
path of the directory is missing, though it exists. Where two slashes are at the beginning of a
path, both of them are kept. From a directory that was removed the one above it comes out as a
relative path. -/
theorem check_does_not_repeat :
    let directory := Path.absolute (.ofString "/srv") (Dialogue.winding 584)
    (validate (Dialogue.winding 584) withOutput).1 = .ok directory ∧
    (validate directory withOutput).1 = .error (.missing directory) ∧
    (validate (.ofString ".") belowClosed).1 = .ok (.ofString "/home/work") ∧
    belowClosed.files.node? ["home".toList, "work".toList] = some (.directory .full) ∧
    (validate (.ofString "/home/work") belowClosed).1 =
      .error (.missing (.ofString "/home/work")) ∧
    (validate (.ofString "//srv/out") withOutput).1 = .ok (.ofString "//srv/out") ∧
    (validate (.ofString "..") removedHere).1 = .ok (.ofString "..") := by
  intro directory
  have hcurrent : withOutput.files.currentDirectory = .ofString "/srv" := by decide
  have hfirst : verdict withOutput.files (Dialogue.winding 584) = .ok directory := by
    rw [verdict_eq_ok_iff_of_anchored anchored_withOutput, hcurrent]
    exact ⟨rfl, _, Dialogue.locate_winding (by decide), by decide⟩
  have hlong : pathLimit < directory.byteSize := by
    rw [Dialogue.byteSize_absolute_winding]
    decide
  have hagain := verdict_of_not_reaches
    (not_reaches_of_not_found hfirst fun hfound => Nat.not_lt.mpr hfound.1 hlong)
  exact ⟨by rw [validate_eq, hfirst], by rw [validate_eq, hagain], by decide +kernel,
    by decide +kernel, by decide +kernel, by decide +kernel, by decide +kernel⟩

end OutputDirectory

end FragmentRunner
