import FragmentRunner.Interpreter

/-!
# The demonstration

A fixed list of fragments for an interpreter. The head of the loop and its body are two fragments,
which shows that fragments are joined as they are.
-/

namespace FragmentRunner.Demo

/-- The fragments of the demonstration, in order. -/
def statements : List String :=
  ["let i = 10;",
    "println!(\"\x7b\x7d\", i);",
    "if i < 100 \x7b println!(\"i is less than 100\"); \x7d",
    "for r in 0..5 ",
    "\x7b println!(\"\x7b\x7d\", r); \x7d"]

/-- What is printed before the demonstration runs. -/
def introduction : String :=
  "\nThe following output was produced from Rust statements "
    ++ "sent in from a client of the Session API.\n\n"

/-- Adds fragments in order, until one is refused, and logs each. -/
def addLogged (s : Interpreter) : List String → Effect InterpreterError Interpreter
  | [] => return s
  | text :: rest => do
    Effect.debug ("demo: " ++ text)
    addLogged (← s.add text) rest

/-- Adds the fragments of the demonstration. -/
def queue (s : Interpreter) : Effect InterpreterError Interpreter :=
  addLogged s statements

end FragmentRunner.Demo
