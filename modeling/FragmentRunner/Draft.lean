import FragmentRunner.Fragment

/-!
# Drafts of a unit

A draft holds the fragments entered so far, imports and statements apart, each in the order of
entry. `render` writes them out as one unit:

    imports ++ preamble ++ guardOpen ++ statements ++ guardClose

Nothing stands between two fragments, so a fragment may end in the middle of a statement that the
next one completes. The fixed texts keep compiler messages at stable columns.
-/

namespace FragmentRunner

/-- The name of the unit, which is the same for every run. -/
def unitName : String := "runner"

/-- The file that a unit is written to. -/
def sourceFile : String := "runner.rs"

/-- The entry point that every unit exports. -/
def entrySymbol : String := "runlet_entry"

/-- Opens the exported entry point. -/
def preamble : String :=
  "#[unsafe(no_mangle)] pub extern \"C\" fn runlet_entry() -> i32 \x7b "

/-- Has panics printed with their trace, and opens the boundary that no panic crosses. -/
def guardOpen : String :=
  "::std::panic::set_hook(::std::boxed::Box::new(|info| \x7b "
    ++ "::std::eprintln!(\"\x7b\x7d\\nstack backtrace:\\n\x7b\x7d\", info, "
    ++ "::std::backtrace::Backtrace::force_capture()); \x7d)); "
    ++ "match ::std::panic::catch_unwind(::std::panic::AssertUnwindSafe(|| \x7b "

/-- Closes the boundary: the entry point returns 0 when the statements came to their end and 1 when
one of them panicked. -/
def guardClose : String :=
  " \x7d)) \x7b "
    ++ "Ok(()) => \x7b let _ = ::std::io::Write::flush(&mut ::std::io::stdout()); 0 \x7d "
    ++ "Err(_) => \x7b let _ = ::std::io::Write::flush(&mut ::std::io::stdout()); 1 \x7d "
    ++ "\x7d \x7d"

/-- The fragments entered so far. -/
structure Draft where
  imports : List String := []
  statements : List String := []
deriving DecidableEq

namespace Draft

/-- The draft without fragments. -/
def empty : Draft := {}

/-- Whether a draft has no fragments. -/
def isEmpty (draft : Draft) : Bool :=
  draft.imports.isEmpty && draft.statements.isEmpty

/-- The draft with one more import. -/
def addImport (draft : Draft) (text : String) : Draft :=
  { draft with imports := draft.imports ++ [text] }

/-- The draft with one more statement. -/
def addStatement (draft : Draft) (text : String) : Draft :=
  { draft with statements := draft.statements ++ [text] }

/-- The draft with one more fragment of a given kind. -/
def addFragment (draft : Draft) (text : String) : FragmentKind → Draft
  | .imported => draft.addImport text
  | .statement => draft.addStatement text

/-- The source text of the unit that a draft makes. -/
def render (draft : Draft) : String :=
  String.join draft.imports ++ preamble ++ guardOpen ++ String.join draft.statements ++ guardClose

end Draft

end FragmentRunner
