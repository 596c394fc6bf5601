/-!
# Environment variables

The variables that are set, with their values; a variable that is set to the empty text is set.
-/

namespace FragmentRunner

/-- The variables that are set. -/
structure Environment where
  bindings : List (String × String)

/-- The value of a variable, if it is set. -/
def Environment.get? (env : Environment) (name : String) : Option String :=
  env.bindings.lookup name

/-- The value of a variable, if it is set and not empty. -/
def Environment.nonempty? (env : Environment) (name : String) : Option String :=
  (env.get? name).filter fun value => !value.isEmpty

end FragmentRunner
