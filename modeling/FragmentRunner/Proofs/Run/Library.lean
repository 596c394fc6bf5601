import FragmentRunner.Interpreter
import FragmentRunner.Proofs.Loading.Unit

/-!
# Executing a library

How the execution of a library ends, by the stage at which it ends: it is found, a staging file is
created, the library is copied to it, the copy is opened, searched for the entry point, and called.
`Executes` has one rule for each way to end, and `executes_iff` says that the rules are exactly what
`executeLibrary` does. A staging file that was created is removed in all of them, so the files are
never different afterwards.
-/

namespace FragmentRunner.Run

open FileSystem

/-- Copies `content` to a file of its own beside `library`. -/
def stageCopy (fs : FileSystem) (library : Path) (content : Content) :
    Except IoError (Path × FileSystem) :=
  LoadedUnit.copyBeside fs library unitName content

/-- The file at `library` can be copied, and it is the image of a unit. -/
structure Opens (fs : FileSystem) (library : Path) (image : Image) : Prop where
  content : fs.content library = .ok (.image image)
  staged : ∃ copy after, stageCopy fs library (.image image) = .ok (copy, after)

/-- How the execution of the library at `library` ends, and which entry points it calls. -/
inductive Executes (fs : FileSystem) (library : Path) :
    Except InterpreterError Completion → List Event → Prop
  | missing (h : fs.isFile library = false) :
      Executes fs library (.error (.load (.missing library))) []
  | notStaged {e : IoError} (hfile : fs.isFile library = true)
      (h : LoadedUnit.stagingFile fs library unitName = .error e) :
      Executes fs library (.error (.load (.notStaged e))) []
  | notCopied {legible : List UInt8} {e : IoError} {copy : Path} {after : FileSystem}
      (hstaged : stageCopy fs library (.bytes legible) = .ok (copy, after))
      (h : fs.content library = .ok (.damaged legible e)) :
      Executes fs library (.error (.load (.notStaged e))) []
  | notOpened {bytes : List UInt8} {copy : Path} {after : FileSystem}
      (hstaged : stageCopy fs library (.bytes bytes) = .ok (copy, after))
      (h : fs.content library = .ok (.bytes bytes)) :
      Executes fs library (.error (.load .notOpened)) []
  | symbolNotFound {image : Image} (hopens : Opens fs library image)
      (h : image.status? entrySymbol = none) :
      Executes fs library (.error (.call (.symbolNotFound entrySymbol))) []
  | completed {image : Image} (hopens : Opens fs library image)
      (h : image.status? entrySymbol = some 0) :
      Executes fs library (.ok .completed) [.called entrySymbol]
  | panicked {image : Image} (hopens : Opens fs library image)
      (h : image.status? entrySymbol = some 1) :
      Executes fs library (.ok .panicked) [.called entrySymbol]
  | unexpectedStatus {image : Image} {status : Int32} (hopens : Opens fs library image)
      (h : image.status? entrySymbol = some status) (hzero : status ≠ 0) (hone : status ≠ 1) :
      Executes fs library (.error (.call (.unexpectedStatus status))) [.called entrySymbol]

/-! ## Loading -/

section Load

variable {w : World} {library : Path}

/-- A library that can be opened is opened from a copy, and without the copy the files are as they
were. -/
theorem Opens.load {image : Image} (h : Opens w.files library image) :
    ∃ (unit : LoadedUnit) (after : FileSystem), unit.image = image ∧
      after.removeFile unit.staged = w.files ∧
      (LoadedUnit.load library unitName).Yields w (.ok unit) after [] := by
  obtain ⟨hcontent, copy, after, hstaged⟩ := h
  exact ⟨⟨unitName, image, copy⟩, after, rfl, (LoadedUnit.copyBeside_restored hstaged).2,
    (LoadedUnit.LoadEnds.opened hcontent hstaged).yields⟩

end Load

/-! ## Calling -/

section Call

variable {w : World} {fs : FileSystem} {library : Path} {acts : List Event}

/-- The name of the entry point is looked up as it is: no NUL at its end is left out. -/
theorem readSymbol_entrySymbol :
    String.ofList (LoadedUnit.readSymbol entrySymbol) = entrySymbol := by
  decide

/-- An entry point that the image does not export is not called. -/
theorem invoke_of_none {unit : LoadedUnit} (h : unit.image.status? entrySymbol = none) :
    (unit.invoke entrySymbol).Yields w (.error (.symbolNotFound entrySymbol)) w.files [] := by
  rw [← readSymbol_entrySymbol] at h
  exact LoadedUnit.invoke_of_none h

/-- An entry point that the image exports is called, and what it returns is understood or not. -/
theorem invoke_of_some {unit : LoadedUnit} {status : Int32}
    (h : unit.image.status? entrySymbol = some status) :
    (unit.invoke entrySymbol).Yields w (Completion.ofStatus status) w.files
      [.called entrySymbol] := by
  rw [← readSymbol_entrySymbol] at h
  have hinvoke := LoadedUnit.invoke_of_some (w := w) h
  rwa [readSymbol_entrySymbol] at hinvoke

/-- Only zero stands for a unit that came to its end. -/
theorem ofStatus_eq_completed_iff {status : Int32} :
    Completion.ofStatus status = .ok .completed ↔ status = 0 := by
  rw [Completion.ofStatus]
  split_ifs with hzero hone <;> simp_all

/-- Only one stands for a statement that panicked. -/
theorem ofStatus_eq_panicked_iff {status : Int32} :
    Completion.ofStatus status = .ok .panicked ↔ status = 1 := by
  rw [Completion.ofStatus]
  split_ifs with hzero hone <;> simp_all

/-- A library that was opened is closed again, whatever the call comes to. -/
theorem executeLibrary_of_load {unit : LoadedUnit} {r : Except CallError Completion}
    (hload : (LoadedUnit.load library unitName).Yields w (.ok unit) fs [])
    (hinvoke : ∀ w' : World, (unit.invoke entrySymbol).Yields w' r w'.files acts) :
    (Interpreter.executeLibrary library).Yields w (r.mapError .call) (fs.removeFile unit.staged)
      acts := by
  refine .bind_quiet (.mapError _ hload) fun w₁ hw₁ => ?_
  -- The unit is closed on both ways out of the call, so the world after the call comes first.
  obtain ⟨hresult, hw₂⟩ := (hinvoke w₁).mapError InterpreterError.call
  generalize hcall : Effect.mapError InterpreterError.call (unit.invoke entrySymbol) w₁ = called
    at hresult hw₂
  obtain ⟨result, w₂⟩ := called
  obtain rfl : result = r.mapError .call := hresult
  have hworld : w₁.Becomes w₁.files acts w₂ := hw₂
  have hfiles : fs = w₂.files := hw₁.files.symm.trans hworld.files.symm
  rw [hfiles, ← List.append_nil acts]
  cases r with
  | ok completion =>
    refine .after (y := do Effect.info _; unit.close; return completion) hworld
      (by rw [hcall]; rfl) ?_
    refine .bind_quiet (.info _ w₂) fun w₃ hw₃ => ?_
    rw [← hw₃.files]
    exact .bind_quiet (LoadedUnit.unstage_yields _ w₃) fun w₄ hw₄ => hw₄.files ▸ .pure _ w₄
  | error e =>
    refine .after (y := do unit.close; Effect.fail (.call e)) hworld (by rw [hcall]; rfl) ?_
    exact .bind_quiet (LoadedUnit.unstage_yields _ w₂) fun w₃ hw₃ => hw₃.files ▸ .fail _ w₃

end Call

/-! ## Every way to end -/

variable {w : World} {fs : FileSystem} {library : Path}
  {result : Except InterpreterError Completion} {acts : List Event}

/-- A library that opens is executed as far as the status of its entry point. -/
theorem Opens.executeLibrary_of_status {image : Image} {status : Int32}
    (hopens : Opens w.files library image) (h : image.status? entrySymbol = some status) :
    (Interpreter.executeLibrary library).Yields w ((Completion.ofStatus status).mapError .call)
      w.files [.called entrySymbol] := by
  obtain ⟨unit, after, rfl, hclosed, hload⟩ := hopens.load
  rw [← hclosed]
  exact executeLibrary_of_load hload fun _ => invoke_of_some h

/-- Each rule is a way in which `executeLibrary` can end. -/
theorem Executes.yields (h : Executes w.files library result acts) :
    (Interpreter.executeLibrary library).Yields w result w.files acts := by
  -- As long as no unit is open, an execution ends as the load does.
  have hload : ∀ {e : LoadError}, LoadedUnit.LoadEnds w.files library unitName (.error e) w.files →
      (Interpreter.executeLibrary library).Yields w (.error (.load e)) w.files [] :=
    fun hends => .bind_error (.mapError InterpreterError.load hends.yields)
  cases h with
  | missing h => exact hload (.missing h)
  | notStaged hfile h => exact hload (.notStaged hfile h)
  | notCopied hstaged h => exact hload (.notCopied h hstaged)
  | notOpened hstaged h => exact hload (.notOpened h hstaged)
  | symbolNotFound hopens h =>
    obtain ⟨unit, after, rfl, hclosed, hload⟩ := hopens.load
    have hyields := executeLibrary_of_load hload fun _ => invoke_of_none h
    rwa [hclosed] at hyields
  | completed hopens h => exact hopens.executeLibrary_of_status h
  | panicked hopens h => exact hopens.executeLibrary_of_status h
  | unexpectedStatus hopens h hzero hone =>
    have hyields := hopens.executeLibrary_of_status h
    rwa [Completion.ofStatus, if_neg hzero, if_neg hone] at hyields

/-- What the entry point returns decides which rule applies to a library that opens and exports
it. -/
theorem Opens.executes {image : Image} {status : Int32} (hopens : Opens fs library image)
    (h : image.status? entrySymbol = some status) :
    Executes fs library ((Completion.ofStatus status).mapError .call) [.called entrySymbol] := by
  rw [Completion.ofStatus]
  split_ifs with hzero hone
  · exact .completed hopens (hzero ▸ h)
  · exact .panicked hopens (hone ▸ h)
  · exact .unexpectedStatus hopens h hzero hone

/-- Some rule applies to every library, whether there is one or not. -/
theorem exists_executes (fs : FileSystem) (library : Path) :
    ∃ result acts, Executes fs library result acts := by
  cases hfile : fs.isFile library with
  | false => exact ⟨_, _, .missing hfile⟩
  | true =>
    obtain ⟨content, hcontent⟩ := exists_content_of_isFile hfile
    cases hstaged : LoadedUnit.stagingFile fs library unitName with
    | error e => exact ⟨_, _, .notStaged hfile hstaged⟩
    | ok staged =>
      obtain ⟨after, -, hcopied⟩ :=
        LoadedUnit.exists_copyBeside_of_stagingFile hstaged content.legible
      cases content with
      | bytes bytes => exact ⟨_, _, .notOpened hcopied hcontent⟩
      | damaged legible cause => exact ⟨_, _, .notCopied hcopied hcontent⟩
      | image image =>
        have hopens : Opens fs library image := ⟨hcontent, staged.1, after, hcopied⟩
        cases hstatus : image.status? entrySymbol with
        | none => exact ⟨_, _, .symbolNotFound hopens hstatus⟩
        | some status => exact ⟨_, _, hopens.executes hstatus⟩

/-- The execution of a library either returns an error and calls nothing, or it is decided by what
the entry point returns. -/
theorem Executes.error_or_opens (h : Executes fs library result acts) :
    ((∃ e, result = .error e) ∧ acts = []) ∨
      ∃ image status, Opens fs library image ∧ image.status? entrySymbol = some status ∧
        result = (Completion.ofStatus status).mapError .call ∧ acts = [.called entrySymbol] := by
  cases h with
  | missing | notStaged | notCopied | notOpened | symbolNotFound => exact .inl ⟨⟨_, rfl⟩, rfl⟩
  | completed hopens h => exact .inr ⟨_, 0, hopens, h, rfl, rfl⟩
  | panicked hopens h => exact .inr ⟨_, 1, hopens, h, rfl, rfl⟩
  | unexpectedStatus hopens h hzero hone =>
    refine .inr ⟨_, _, hopens, h, ?_, rfl⟩
    rw [Completion.ofStatus, if_neg hzero, if_neg hone]
    rfl

/-- The rules are exactly what `executeLibrary` does. -/
theorem executes_iff : (Interpreter.executeLibrary library).Yields w result fs acts ↔
    fs = w.files ∧ Executes w.files library result acts := by
  constructor
  · intro h
    obtain ⟨result', acts', hexecutes⟩ := exists_executes w.files library
    obtain ⟨rfl, rfl, rfl⟩ := h.unique hexecutes.yields
    exact ⟨rfl, hexecutes⟩
  · rintro ⟨rfl, h⟩
    exact h.yields

end FragmentRunner.Run
