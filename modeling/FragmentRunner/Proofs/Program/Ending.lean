import FragmentRunner.Program
import FragmentRunner.Proofs.Build.OutputDirectory
import FragmentRunner.Proofs.Effect.Yields

/-!
# How the program ends

Before it does what it was told, the program reads its settings and looks for its output directory.
Neither changes anything, unless the user has to be asked for the directory. What a command comes to
decides the exit status; a failure is reported, and has the status 1.

* `perform_execute` and `perform_converse`: what is done once settings and directory are known.
* `completed_conclude`: the status, and that a report is no action and changes no file.
-/

namespace FragmentRunner.Program

variable {options : Options} {settings : Settings} {directory : Path} {w begun after : World}
  {fs : FileSystem} {acts : List Event} {r : Except Failure UInt8} {x : Effect Failure UInt8}
  {input rest : LineInput}

/-! ## Settings and directories -/

/-- Reading the settings changes nothing. -/
theorem settle_snd (options : Options) (w : World) : (settle options w).2 = w := by
  rw [settle, Effect.bind_of_ok (show Effect.ask _ w = (.ok _, w) from rfl), Effect.bind_apply,
    Effect.mapError, Effect.ofExcept]
  cases Settings.load w.environment w.files <;> rfl

/-- Looking for the output directory changes nothing. -/
theorem requireDirectory_snd (options : Options) (settings : Settings) (w : World) :
    (requireDirectory options settings w).2 = w := by
  rw [requireDirectory]
  cases givenDirectory options settings with
  | none => rfl
  | some path =>
    simp only [checkDirectory, Effect.mapError, OutputDirectory.validate_eq]
    cases OutputDirectory.verdict w.files path <;> rfl

/-- With settings and an output directory the program executes the fragments. -/
theorem perform_execute (imports fragments : List String) (input : LineInput)
    (hsettings : (settle options w).1 = .ok settings)
    (hdirectory : (requireDirectory options settings w).1 = .ok directory) :
    perform options (.execute imports fragments) input w =
      execute (.new directory settings.toolchain) imports fragments w := by
  rw [perform, Effect.bind_of_ok (Prod.ext hsettings (settle_snd options w))]
  exact Effect.bind_of_ok (Prod.ext hdirectory (requireDirectory_snd options settings w))

/-- With settings and a directory the program holds a conversation over the lines that are left. -/
theorem perform_converse (hsettings : (settle options w).1 = .ok settings)
    (hdirectory : findDirectory options settings input w = (.ok (directory, rest), begun)) :
    perform options .converse input w =
      converse settings.dialogue rest (.new directory settings.toolchain) begun := by
  rw [perform, Effect.bind_of_ok (Prod.ext hsettings (settle_snd options w))]
  exact Effect.bind_of_ok hdirectory

/-! ## The exit status -/

/-- The exit status of the program after a result, a failure included. -/
def exitStatus : Except Failure UInt8 → UInt8
  | .ok status => status
  | .error _ => 1

/-- The program ends with the status of what it attempted; a failure is reported. -/
theorem completed_conclude (hx : x.Yields w r fs acts) :
    (completed (conclude x) w).1 = exitStatus r ∧
      w.Becomes fs acts (completed (conclude x) w).2 := by
  have hconclude : (conclude x).Yields w (.ok (exitStatus r)) fs acts := by
    refine .bind_last (.attempt hx) fun w₁ hw₁ => ?_
    cases r with
    | ok status => exact hw₁.files ▸ .pure status w₁
    | error e => exact hw₁.files ▸ .report_pure _ 1 w₁
  obtain ⟨hresult, hworld⟩ := hconclude
  rcases hended : conclude x w with ⟨e | status, after⟩
  · exact e.elim
  · rw [hended] at hresult hworld
    rw [completed, hended]
    exact ⟨Except.ok.inj hresult, hworld⟩

/-- The program ends with the status of what succeeded. -/
theorem completed_conclude_of_ok {x : Effect Failure UInt8} {status : UInt8}
    (h : x w = (.ok status, after)) : completed (conclude x) w = (status, after) := by
  have hattempt : (Effect.attempt x : Effect Empty _) w = (.ok (.ok status), after) := by
    rw [Effect.attempt, h]
  rw [completed, conclude, Effect.bind_of_ok hattempt]
  rfl

end FragmentRunner.Program
