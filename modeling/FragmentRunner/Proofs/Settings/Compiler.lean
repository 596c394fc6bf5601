import FragmentRunner.Settings
import FragmentRunner.Proofs.Build.Lookup
import Mathlib.Logic.Function.Iterate

/-!
# Which compiler the settings name

The environment replaces the compiler of the settings, and the command line that of both. A
toolchain looks into the environment once more when its compiler is looked up, and then prefers its
own. That makes no difference: a compiler that the environment names is in the settings by then.

* `iterate_applyEnvironment`: the environment has its say once.
* `resolve_settled_without`: the second look into the environment changes nothing.
* `toOption_resolve_settled`: the first that there is, of the command line, the environment, the
  settings file and the search path.
-/

namespace FragmentRunner.Settings

variable {env : Environment}

/-- The compiler of the settings after the environment has had its say. -/
theorem compiler_applyEnvironment (env : Environment) (settings : Settings) :
    (settings.applyEnvironment env).toolchain.compiler =
      ((env.nonempty? compilerVariable).map .ofString).or settings.toolchain.compiler := by
  rw [applyEnvironment]
  cases env.nonempty? compilerVariable <;> rfl

/-- What the environment has to say it says once. -/
theorem applyEnvironment_idem (env : Environment) (settings : Settings) :
    (settings.applyEnvironment env).applyEnvironment env = settings.applyEnvironment env := by
  rw [applyEnvironment, applyEnvironment]
  cases env.nonempty? compilerVariable <;> rfl

/-- However often the environment is asked, the settings are those after the first time. -/
theorem iterate_applyEnvironment (env : Environment) (settings : Settings) (n : Nat) :
    (applyEnvironment env)^[n + 1] settings = settings.applyEnvironment env := by
  rw [Function.iterate_succ_apply]
  exact Function.iterate_fixed (applyEnvironment_idem env settings) n

/-- The settings of the file, with what the environment and then the command line say about the
compiler. -/
def settled (given : Option Path) (env : Environment) (file : Settings) : Settings :=
  given.elim (file.applyEnvironment env) (file.applyEnvironment env).withCompiler

/-- The compiler of the settings is the one on the command line, or that which the environment
leaves. -/
theorem compiler_settled (given : Option Path) (env : Environment) (file : Settings) :
    (settled given env file).toolchain.compiler = [given,
      (env.nonempty? compilerVariable).map .ofString, file.toolchain.compiler].findSome? id := by
  cases given with
  | some compiler => rfl
  | none =>
    rw [settled, Option.elim_none, compiler_applyEnvironment]
    cases env.nonempty? compilerVariable with
    | some compiler => rfl
    | none => cases file.toolchain.compiler <;> rfl

/-- Where the settings are left without a compiler, the environment names none either. -/
theorem nonempty?_of_settled_none {given : Option Path} {file : Settings}
    (h : (settled given env file).toolchain.compiler = none) :
    env.nonempty? compilerVariable = none := by
  rw [compiler_settled, List.findSome?_eq_none_iff] at h
  simpa using h ((env.nonempty? compilerVariable).map .ofString) (by simp)

/-- So the compiler that is looked up is the one in the settings, or one on the search path. -/
theorem resolve_settled (given : Option Path) (env : Environment) (file : Settings)
    (fs : FileSystem) :
    (settled given env file).toolchain.resolve env fs =
      (settled given env file).toolchain.compiler.elim (searchCompiler env fs) .ok := by
  rw [Toolchain.resolve]
  cases hcompiler : (settled given env file).toolchain.compiler with
  | some compiler => rfl
  | none =>
    rw [nonempty?_of_settled_none hcompiler]
    rfl

/-- The compiler is the first that there is: the one on the command line, the one that the
environment names, the one in the settings file, or the first one on the search path. -/
theorem toOption_resolve_settled (given : Option Path) (env : Environment) (file : Settings)
    (fs : FileSystem) :
    ((settled given env file).toolchain.resolve env fs).toOption =
      [given, (env.nonempty? compilerVariable).map .ofString, file.toolchain.compiler,
        (searchCompiler env fs).toOption].findSome? id := by
  have hor : ∀ compiler : Option Path,
      (compiler.elim (searchCompiler env fs) .ok).toOption =
        compiler.or (searchCompiler env fs).toOption := by
    intro compiler
    cases compiler <;> rfl
  have hlast : [(searchCompiler env fs).toOption].findSome? id =
      (searchCompiler env fs).toOption := by
    simp
  -- The search path comes after the three that are put into the settings.
  rw [resolve_settled, hor, compiler_settled]
  nth_rewrite 1 [← hlast]
  exact List.findSome?_append.symm

/-- Looking up the compiler of the settings finds the same whether or not the environment still
names one. -/
theorem resolve_settled_without (given : Option Path) (env : Environment) (file : Settings)
    (fs : FileSystem) :
    (settled given env file).toolchain.resolve (env.without compilerVariable) fs =
      (settled given env file).toolchain.resolve env fs := by
  have hunset : (env.without compilerVariable).nonempty? compilerVariable = none := by
    rw [Environment.nonempty?, Environment.get?_without, if_pos rfl]
    rfl
  rw [resolve_settled, Toolchain.resolve, hunset, searchCompiler_without]
  cases (settled given env file).toolchain.compiler <;> rfl

end FragmentRunner.Settings
