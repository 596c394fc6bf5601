import FragmentRunner.Proofs.Dialogue.Grammar
import FragmentRunner.Proofs.Run.Placement

/-!
# The output directory during a dialogue

The output directory comes from a check, and a line changes it only by another one. No line undoes
what the check guarantees: the path led to a directory that was fit for output when it was set, and
it is absolute, unless the path of the current directory could not be told. What a run writes itself
goes there and nowhere else.

The check looks at the path as it was entered, and returns it spelled from the root. That can be too
long for a path, and then the directory that the check let pass is not found any more: a path that
winds through a directory often enough shows it.

* `Sitting.checked_next` and `Sitting.checked_after`: the step and the run of a dialogue.
* `directory_in_force`: what is known about the directory after any dialogue.
* `directory_unfit`: directories that passed the check and are not found, or not absolute.
-/

namespace FragmentRunner.Dialogue

open Run FileSystem

/-! ## One line -/

/-- The directory that a command sets, if it names one that is fit for output. -/
def newDirectory? (w : World) : LineCommand → Option Path
  | .directory (some path) => (OutputDirectory.validate (.ofString path) w).1.toOption
  | _ => none

/-- Only a command with a path that is fit for output sets a directory. -/
theorem newDirectory?_eq_some_iff {w : World} {command : LineCommand} {directory : Path} :
    newDirectory? w command = some directory ↔ ∃ path, command = .directory (some path) ∧
      (OutputDirectory.validate (.ofString path) w).1 = .ok directory := by
  cases command with
  | directory path =>
    cases path with
    | none => simp [newDirectory?]
    | some path =>
      cases hvalid : (OutputDirectory.validate (.ofString path) w).1 <;>
        simp [newDirectory?, hvalid, Except.toOption]
  | run | reset | quit | help | source | empty | unknown | fragment => simp [newDirectory?]

section Line

variable {colors : Bool} {line path : String} {s : Interpreter} {w : World}
  {e : OutputDirectoryError}

/-- A line sets the directory that its command names, or leaves it. -/
theorem respond_directory (colors : Bool) (line : String) (s : Interpreter) (w : World) :
    (respond colors line s w).2.1.build.directory =
      (newDirectory? w (LineCommand.parse (trimLine line))).getD s.build.directory := by
  rw [respond_eq]
  cases LineCommand.parse (trimLine line) with
  | directory path =>
    cases path with
    | none => rfl
    | some path =>
      rw [newDirectory?, afterCall, call?]
      cases (OutputDirectory.validate (.ofString path) w).1 <;> rfl
  | fragment text =>
    -- Adding a fragment changes the draft only, if it changes anything.
    have hadded := fst_perform_add text s w
    rw [Interpreter.add?] at hadded
    simp only [afterCall, call?, Option.elim_some, hadded]
    cases FragmentKind.of? text <;> rfl
  | run | reset | quit | help | source | empty | unknown => rfl

/-- Files are changed by a line only if it is a run, and then by that run. -/
theorem respond_changedWithin (colors : Bool) (line : String) (s : Interpreter) (w : World) :
    ChangedWithin w.files (respond colors line s w).2.2.files
      {loc | WritesTo s w loc ∨ ArtifactAt s w loc} := by
  have hsame : ChangedWithin w.files w.files {loc | WritesTo s w loc ∨ ArtifactAt s w loc} :=
    (Overwritten.refl w.files).changedWithin.mono (Set.empty_subset _)
  rw [respond_eq]
  cases LineCommand.parse (trimLine line) with
  | run => exact changedWithin_run s w
  | fragment text =>
    have hfiles := (add_yields s text w).2.files
    rw [← snd_perform_add] at hfiles
    rw [afterCall, call?, Option.elim_some, hfiles]
    exact hsame
  | directory path =>
    cases path with
    | none => exact hsame
    | some path =>
      rw [afterCall, call?]
      cases (OutputDirectory.validate (.ofString path) w).1 <;> exact hsame
  | reset | quit | help | source | empty | unknown => exact hsame

/-- A directory that is not fit for output is not set, and nothing else is changed. -/
theorem respond_of_unfit (hcommand : LineCommand.parse (trimLine line) = .directory (some path))
    (hunfit : (OutputDirectory.validate (.ofString path) w).1 = .error e) :
    (respond colors line s w).2 = (s, w) := by
  rw [respond_eq, hcommand]
  exact (Idle.unfitDirectory hunfit).afterCall_eq

end Line

/-! ## Any number of lines -/

/-- What happens while a dialogue goes on. -/
inductive Happening
  | line (text : String)
  /-- The world becomes another one without the dialogue. -/
  | elsewhere (w : World)

/-- A dialogue that is going on. For the record it keeps the files as they were when the output
directory was set. -/
structure Sitting where
  interpreter : Interpreter
  world : World
  whenSet : FileSystem

namespace Sitting

variable {colors : Bool} {now : Sitting} {happening : Happening} {happenings : List Happening}

/-- What a happening makes of a dialogue. -/
def next (colors : Bool) (now : Sitting) : Happening → Sitting
  | .line text =>
    let answer := respond colors text now.interpreter now.world
    { interpreter := answer.2.1
      world := answer.2.2
      whenSet :=
        if (newDirectory? now.world (LineCommand.parse (trimLine text))).isSome then now.world.files
        else now.whenSet }
  | .elsewhere w => { now with world := w }

section

variable (colors : Bool) (now : Sitting) (text : String)

/-- A line leaves the interpreter that its answer leaves. -/
theorem next_line_interpreter : (now.next colors (.line text)).interpreter =
    (respond colors text now.interpreter now.world).2.1 := by
  simp only [Sitting.next]

/-- The files are put on record by a line that sets the directory. -/
theorem next_line_whenSet : (now.next colors (.line text)).whenSet =
    if (newDirectory? now.world (LineCommand.parse (trimLine text))).isSome then now.world.files
    else now.whenSet := by
  simp only [Sitting.next]

end

/-- A dialogue after happenings. -/
def after (colors : Bool) (happenings : List Happening) (now : Sitting) : Sitting :=
  happenings.foldl (next colors) now

/-- The output directory had been checked when it was set. -/
def Checked (now : Sitting) : Prop :=
  OutputDirectory.Checked now.whenSet now.interpreter.build.directory

/-- A line sets only a directory that has been checked, and nothing that happens undoes it. -/
theorem checked_next (h : now.Checked) : (now.next colors happening).Checked := by
  cases happening with
  | elsewhere w => exact h
  | line text =>
    have hdirectory := respond_directory colors text now.interpreter now.world
    rw [← next_line_interpreter] at hdirectory
    rw [Checked, hdirectory, next_line_whenSet]
    cases hnew : newDirectory? now.world (LineCommand.parse (trimLine text)) with
    | none => exact h
    | some directory =>
      -- The line sets the directory in the world as it is now.
      obtain ⟨path, -, hvalid⟩ := newDirectory?_eq_some_iff.mp hnew
      rw [OutputDirectory.validate_eq] at hvalid
      exact OutputDirectory.checked_of_verdict hvalid

/-- Whatever happens in a dialogue, its output directory has been checked. -/
theorem checked_after (h : now.Checked) : (now.after colors happenings).Checked := by
  induction happenings generalizing now with
  | nil => exact h
  | cons first happenings ih => exact ih (checked_next h)

end Sitting

/-- In a dialogue that began with a directory from the check, whatever lines are answered and
whatever else happens, the output directory is a path that was checked when it was set: the path of
a directory in which files could be created, spelled from the root if the path of the current
directory could be told. If that path led there, the output directory is absolute and was fit: it
led to the directory that was checked, and named it unless it is too long for a path. A line sets
the directory that its command names, if that passes the check, and no other line changes it. What a
run writes itself lies directly in the directory in force; whatever else a line changes is the
artifact of a compiler. A directory that does not pass leaves everything as it was. -/
theorem directory_in_force {start : Sitting} {given : Path} {before : World} (colors : Bool)
    (happenings : List Happening)
    (hset : (OutputDirectory.validate given before).1 = .ok start.interpreter.build.directory)
    (hwhen : start.whenSet = before.files) :
    let now := start.after colors happenings
    let s := now.interpreter
    let w := now.world
    OutputDirectory.Checked now.whenSet s.build.directory ∧
    (now.whenSet.Anchored → OutputDirectory.Fit now.whenSet s.build.directory) ∧
    (∀ line, (respond colors line s w).2.1.build.directory =
      (newDirectory? w (LineCommand.parse (trimLine line))).getD s.build.directory) ∧
    (∀ loc, WritesTo s w loc → DirectlyIn w.files s.build.directory loc) ∧
    (∀ line, ChangedWithin w.files (respond colors line s w).2.2.files
      {loc | WritesTo s w loc ∨ ArtifactAt s w loc}) ∧
    ∀ line path e, LineCommand.parse (trimLine line) = .directory (some path) →
      (OutputDirectory.validate (.ofString path) w).1 = .error e →
      (respond colors line s w).2 = (s, w) := by
  intro now s w
  rw [OutputDirectory.validate_eq] at hset
  have hstart : start.Checked := by
    rw [Sitting.Checked, hwhen]
    exact OutputDirectory.checked_of_verdict hset
  have hnow : now.Checked := Sitting.checked_after hstart
  refine ⟨hnow, hnow.fit, fun line => respond_directory colors line s w, ?_,
    fun line => respond_changedWithin colors line s w, ?_⟩
  · intro loc hwrites
    exact hwrites.directlyIn hnow.ne_nil
  · intro line path e hcommand hunfit
    exact respond_of_unfit hcommand hunfit

/-- A dialogue in which one directory is set and another one is not. -/
theorem directory_set_once :
    let start : Sitting := {
      interpreter := .new (.ofString "/srv/out") {}
      world := OutputDirectory.withOutput
      whenSet := OutputDirectory.withOutput.files }
    let now := start.after false [.line "x();", .line ":dir .", .line ":dir nowhere"]
    now.interpreter.build.directory = .ofString "/srv" ∧
    OutputDirectory.Fit now.whenSet (.ofString "/srv") ∧
    ∀ loc, WritesTo now.interpreter now.world loc →
      DirectlyIn now.world.files (.ofString "/srv") loc := by
  intro start now
  have hset : (OutputDirectory.validate (.ofString "out") OutputDirectory.withOutput).1 =
      .ok start.interpreter.build.directory := OutputDirectory.validate_withOutput
  -- The second line names a directory that is fit, and the third one that does not exist.
  obtain ⟨-, hfit, -, hwrites, -⟩ := directory_in_force false
    [.line "x();", .line ":dir .", .line ":dir nowhere"] hset rfl
  have hdirectory : now.interpreter.build.directory = .ofString "/srv" := by decide +kernel
  have hwhen : now.whenSet.Anchored := ⟨by decide +kernel, by decide +kernel⟩
  have hfit' := hfit hwhen
  rw [hdirectory] at hfit' hwrites
  exact ⟨hdirectory, hfit', hwrites⟩

/-! ## A path that winds -/

/-- The way into `out` after `n` times in and out of it. -/
def windingSteps : Nat → List Name
  | 0 => ["out".toList]
  | n + 1 => "out".toList :: Path.up :: windingSteps n

/-- The path that winds `n` times in and out of `out` before it stays there. -/
def winding (n : Nat) : Path :=
  ⟨Path.ofSegments (windingSteps n)⟩

section Winding

variable {n : Nat}

/-- The steps are the name of the directory and double dots. -/
theorem windingSteps_cases {name : Name} (h : name ∈ windingSteps n) :
    name = "out".toList ∨ name = Path.up := by
  induction n with
  | zero => exact .inl (List.mem_singleton.mp h)
  | succ n ih =>
    rcases List.mem_cons.mp h with rfl | h
    · exact .inl rfl
    · rcases List.mem_cons.mp h with rfl | h
      · exact .inr rfl
      · exact ih h

/-- The spelling begins with the first winding. -/
theorem chars_winding_succ (n : Nat) :
    (winding (n + 1)).chars = "out/../".toList ++ (winding n).chars := by
  have hne : windingSteps n ≠ [] := by cases n <;> simp [windingSteps]
  rw [winding, winding, windingSteps, Path.ofSegments, Path.ofSegments,
    List.intercalate_cons_of_ne_nil (by simp), List.intercalate_cons_of_ne_nil hne]
  rfl

/-- The spelling ends with the name of the directory. -/
theorem exists_chars_winding (n : Nat) :
    ∃ front, (winding n).chars = front ++ "out".toList ∧ (winding n).chars.head? = some 'o' := by
  induction n with
  | zero => exact ⟨[], rfl, rfl⟩
  | succ n ih =>
    obtain ⟨front, hfront, -⟩ := ih
    exact ⟨"out/../".toList ++ front, by rw [chars_winding_succ, hfront, List.append_assoc],
      by rw [chars_winding_succ]; rfl⟩

/-- The path begins in the current directory. -/
theorem isAbsolute_winding (n : Nat) : (winding n).isAbsolute = false := by
  obtain ⟨front, -, hhead⟩ := exists_chars_winding n
  simp [Path.isAbsolute, hhead]

/-- The segments are the steps, all of which lead somewhere. -/
theorem steps_winding (n : Nat) :
    (winding n).steps = windingSteps n ∧ (winding n).names = windingSteps n := by
  have hsegments : Path.segments (winding n).chars = windingSteps n := by
    refine Path.segments_ofSegments (by cases n <;> simp [windingSteps]) fun name hname => ?_
    rcases windingSteps_cases hname with rfl | rfl <;> decide
  rw [Path.steps, Path.names, hsegments]
  constructor
  all_goals
    refine List.filter_eq_self.mpr fun name hname => ?_
    rcases windingSteps_cases hname with rfl | rfl <;> decide

/-- Each winding has seven bytes. -/
theorem byteSize_winding (n : Nat) : (winding n).byteSize = 7 * n + 3 := by
  induction n with
  | zero => decide
  | succ n ih =>
    rw [Path.byteSize, Path.spelling] at ih
    rw [Path.byteSize, Path.spelling, chars_winding_succ, String.ofList_append,
      String.utf8ByteSize_append, ih]
    have hone : (String.ofList "out/../".toList).utf8ByteSize = 7 := by decide
    omega

/-- No part of the path is NUL. -/
theorem hasNul_winding (n : Nat) : (winding n).hasNul = false := by
  induction n with
  | zero => decide
  | succ n ih =>
    rw [Path.hasNul] at ih
    rw [Path.hasNul, chars_winding_succ, List.any_append, ih]
    decide

/-- However often it winds, the path leads into the directory. -/
theorem walk_winding (n : Nat) : OutputDirectory.withOutput.files.walk ["srv".toList]
    (windingSteps n) = .ok ["srv".toList, "out".toList] := by
  induction n with
  | zero => decide
  | succ n ih =>
    -- In and out again: the walk is where it was.
    have hsteps : windingSteps (n + 1) = ["out".toList, Path.up] ++ windingSteps n := rfl
    have honce : OutputDirectory.withOutput.files.walk ["srv".toList] ["out".toList, Path.up] =
        .ok ["srv".toList] := by decide
    rw [hsteps, walk_append, honce]
    exact ih

/-- Where the path can name something, it names the directory. -/
theorem locate_winding (hshort : 7 * n + 3 ≤ pathLimit) :
    OutputDirectory.withOutput.files.locate (winding n) =
      .ok ["srv".toList, "out".toList] := by
  obtain ⟨front, hchars, -⟩ := exists_chars_winding n
  rw [locate_eq_ok_iff, startOf, isAbsolute_winding, (steps_winding n).1]
  refine ⟨checkPath_eq_ok_iff.mpr ⟨hasNul_winding n, by simp [hchars], ?_⟩, walk_winding n⟩
  rwa [byteSize_winding]

/-- Below a directory, each winding has seven bytes and a slash comes first. -/
theorem foldl_windingSteps (n size : Nat) :
    (windingSteps n).foldl (fun size name => size + 1 + Path.byteSize ⟨name⟩) size =
      size + 7 * n + 4 := by
  have hout : Path.byteSize ⟨"out".toList⟩ = 3 := by decide
  have hup : Path.byteSize ⟨Path.up⟩ = 2 := by decide
  induction n generalizing size with
  | zero => rw [windingSteps, List.foldl_cons, List.foldl_nil, hout]
  | succ n ih =>
    rw [windingSteps, List.foldl_cons, List.foldl_cons, ih, hout, hup]
    omega

/-- Spelled from the root, the path is five bytes longer. -/
theorem byteSize_absolute_winding (n : Nat) :
    (Path.absolute (.ofString "/srv") (winding n)).byteSize = 7 * n + 8 := by
  obtain ⟨front, hchars, -⟩ := exists_chars_winding n
  have hends : (winding n).endsWithSlash = false := by simp [Path.endsWithSlash, hchars]
  have hroot : (Path.ofString "/srv").byteSize = 4 := by decide
  have hsegments : ∀ name ∈ windingSteps n, Path.IsSegment name := by
    intro name hname
    rcases windingSteps_cases hname with rfl | rfl
    · exact ⟨by decide, by decide⟩
    · exact ⟨by decide, by decide⟩
  rw [Path.absolute, isAbsolute_winding, hends, (steps_winding n).2]
  simp only [Bool.false_eq_true, if_false]
  rw [Path.byteSize_extend (by decide) (by decide) hsegments, foldl_windingSteps, hroot]
  omega

/-- Where the path just fits and its spelling from the root does not, a line that names it sets a
directory which is not found. -/
theorem respond_winding (hshort : 7 * n + 3 ≤ pathLimit) (hlong : pathLimit < 7 * n + 8)
    (colors : Bool) (s : Interpreter) :
    let directory := Path.absolute (.ofString "/srv") (winding n)
    (respond colors (":dir " ++ (winding n).spelling) s OutputDirectory.withOutput).2 =
        (s.setDirectory directory, OutputDirectory.withOutput) ∧
      OutputDirectory.withOutput.files.isDirectory directory = false := by
  intro directory
  have hlocate := locate_winding hshort
  have hcurrent : OutputDirectory.withOutput.files.currentDirectory = .ofString "/srv" := by decide
  constructor
  · obtain ⟨front, hchars, hhead⟩ := exists_chars_winding n
    obtain ⟨rest, hrest⟩ := List.head?_eq_some_iff.mp hhead
    have htext : (winding n).spelling.toList = (winding n).chars := String.toList_ofList
    have hparse : LineCommand.parse (trimLine (":dir " ++ (winding n).spelling)) =
        .directory (some (winding n).spelling) := by
      -- There is no white space but the space in front of the path.
      have hline : ":dir " ++ (winding n).spelling =
          "" ++ ":dir" ++ " " ++ (winding n).spelling ++ "" := by
        rw [String.append_empty]
        rfl
      rw [hline]
      refine parse_directory_line (by decide) (by decide) (by decide) (by decide) ?_ ?_ ?_
      · simp [← String.toList_inj, htext, hchars]
      · rw [htext, hrest]
        rfl
      · rw [htext, hchars, List.reverse_append]
        rfl
    have hpath : Path.ofString (winding n).spelling = winding n := congrArg Path.mk htext
    have hverdict : OutputDirectory.verdict OutputDirectory.withOutput.files (winding n) =
        .ok directory := by
      rw [OutputDirectory.verdict_eq_ok_iff_of_anchored OutputDirectory.anchored_withOutput,
        hcurrent]
      exact ⟨rfl, _, hlocate, by decide⟩
    rw [respond_eq, hparse, afterCall, call?, OutputDirectory.validate_eq, hpath, hverdict]
    rfl
  · have hspelled := locate_absolute (fun _ => OutputDirectory.anchored_withOutput) hlocate
    rw [hcurrent, byteSize_absolute_winding, if_pos hlong] at hspelled
    simp [isDirectory, status, directory, hspelled, bind, Except.bind]

/-- In a dialogue that began with a directory from the check, such a line sets another one which is
not found. -/
theorem directory_of_winding (hshort : 7 * n + 3 ≤ pathLimit) (hlong : pathLimit < 7 * n + 8) :
    let s := Interpreter.new (.ofString "/srv/out") {}
    let after := (respond false (":dir " ++ (winding n).spelling) s OutputDirectory.withOutput).2
    (OutputDirectory.validate (.ofString "out") OutputDirectory.withOutput).1 =
      .ok s.build.directory ∧
    after.1.build.directory ≠ s.build.directory ∧
    after.2.files.isDirectory after.1.build.directory = false := by
  intro s after
  obtain ⟨hafter, hdirectory⟩ := respond_winding hshort hlong false s
  obtain ⟨hinterpreter, hworld⟩ := Prod.ext_iff.mp hafter
  have hset : (OutputDirectory.validate (.ofString "out") OutputDirectory.withOutput).1 =
      .ok s.build.directory := OutputDirectory.validate_withOutput
  have hnew : after.1.build.directory = Path.absolute (.ofString "/srv") (winding n) := by
    rw [hinterpreter]
    rfl
  refine ⟨hset, ?_, ?_⟩
  · -- The new directory is longer than the old one.
    intro hsame
    have hsize := byteSize_absolute_winding n
    have hold : Path.byteSize s.build.directory = 8 := by decide
    rw [← hnew, hsame, hold] at hsize
    have hlimit : pathLimit = 4095 := rfl
    omega
  · rw [hnew, hworld]
    exact hdirectory

end Winding

/-- Not every directory that is set is found, nor is every one absolute. The path that winds 584
times is accepted, and set as a directory of 4096 bytes, one more than paths can have. A dot is
accepted below a directory that is closed, and set as a path that leads through it. Double dots are
accepted in a directory that was removed, and set as they are. -/
theorem directory_unfit :
    (let s := Interpreter.new (.ofString "/srv/out") {}
    let after := (respond false (":dir " ++ (winding 584).spelling) s OutputDirectory.withOutput).2
    (OutputDirectory.validate (.ofString "out") OutputDirectory.withOutput).1 =
      .ok s.build.directory ∧
    after.1.build.directory ≠ s.build.directory ∧
    after.2.files.isDirectory after.1.build.directory = false) ∧
    (let s := Interpreter.new (.ofString "/srv/out") {}
    let after := (respond false ":dir ." s OutputDirectory.belowClosed).2
    after.1.build.directory = .ofString "/home/work" ∧
    after.2.files.isDirectory after.1.build.directory = false) ∧
    (let s := Interpreter.new (.ofString "/srv/out") {}
    let after := (respond false ":dir .." s OutputDirectory.removedHere).2
    after.1.build.directory = .ofString "..") :=
  ⟨directory_of_winding (by decide) (by decide), by decide +kernel, by decide +kernel⟩

end FragmentRunner.Dialogue
