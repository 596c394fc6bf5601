import FragmentRunner.Path

/-!
# Compiler settings

Which compiler is run and with which options.
-/

namespace FragmentRunner

/-- How the compiler writes its diagnostics. -/
inductive ErrorFormat
  /-- One line per diagnostic, which begins with its location. -/
  | short
  /-- Several lines per diagnostic, with an excerpt of the source. -/
  | human
deriving DecidableEq

/-- The name of a format on the command line of the compiler and in a settings file. -/
def ErrorFormat.name : ErrorFormat → String
  | .short => "short"
  | .human => "human"

/-- Which compiler is run and with which options. -/
structure Toolchain where
  /-- The compiler, unless it is to be looked for. -/
  compiler : Option Path := none
  edition : String := "2021"
  optimisation : String := "0"
  errorFormat : ErrorFormat := .short
  /-- Further arguments, which stand just before the source. -/
  extraArguments : List String := []
deriving DecidableEq

end FragmentRunner
