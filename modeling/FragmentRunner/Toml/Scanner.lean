/-!
# Scanners

A scanner reads the beginning of a text. Either it finds what it expects there, and then returns
what it found with the text that is left, or it finds nothing at all; there is no memory of how far
a failed scanner came, so alternatives are tried from the same place.
-/

namespace FragmentRunner.Toml

/-- What a text begins with, if it is as expected, and the text that is left. -/
def Scanner (α : Type) : Type := List Char → Option (α × List Char)

namespace Scanner

variable {α β : Type}

/-- The scanner that consumes nothing and returns `a`. -/
protected def pure (a : α) : Scanner α := fun s => some (a, s)

/-- The scanner that goes on where `x` stopped, with what `x` found. -/
protected def bind (x : Scanner α) (f : α → Scanner β) : Scanner β := fun s =>
  match x s with
  | some (a, s) => f a s
  | none => none

instance : Monad Scanner where
  pure := Scanner.pure
  bind := Scanner.bind

/-- The scanner that finds nothing. -/
def fail : Scanner α := fun _ => none

/-- The scanner that looks for what `y` expects where `x` finds nothing. -/
protected def orElse (x : Scanner α) (y : Unit → Scanner α) : Scanner α := fun s =>
  match x s with
  | some found => some found
  | none => y () s

instance : OrElse (Scanner α) where
  orElse := Scanner.orElse

/-- The scanner that consumes nothing and returns what is there, if anything is. -/
def ofOption (a : Option α) : Scanner α := fun s => a.map fun a => (a, s)

/-- Finds nothing unless `condition` holds. -/
def ensure (condition : Bool) : Scanner Unit :=
  if condition then Scanner.pure () else fail

/-- One character that satisfies `p`. -/
def charWhere (p : Char → Bool) : Scanner Char
  | [] => none
  | c :: s => if p c then some (c, s) else none

/-- The character `c`. -/
def char (c : Char) : Scanner Char :=
  charWhere (· = c)

/-- The characters of `word`, in order. -/
def word : List Char → Scanner Unit
  | [] => Scanner.pure ()
  | c :: rest => do
    let _ ← char c
    word rest

/-- The longest run, possibly empty, of characters that satisfy `p`. -/
def run (p : Char → Bool) : Scanner (List Char) := fun s =>
  some (s.takeWhile p, s.dropWhile p)

/-- What `x` finds, if it finds something. -/
def optional (x : Scanner α) : Scanner (Option α) := fun s =>
  match x s with
  | some (a, s) => some (some a, s)
  | none => some (none, s)

/-- What `x` finds, `n` times. -/
def times : Nat → Scanner α → Scanner (List α)
  | 0, _ => Scanner.pure []
  | n + 1, x => do
    let a ← x
    return a :: (← times n x)

/-- What `x` finds one time after another, at most `bound` times, and the text that is left. -/
def repeated (x : Scanner α) : (bound : Nat) → List Char → List α × List Char
  | 0, s => ([], s)
  | bound + 1, s =>
    match x s with
    | some (a, s) =>
      let (others, s) := repeated x bound s
      (a :: others, s)
    | none => ([], s)

/-- What `x` finds one time after another, for a scanner that always consumes something: it cannot
find more things than there are characters. -/
def many (x : Scanner α) : Scanner (List α) := fun s =>
  some (repeated x s.length s)

/-- What `x` finds one time after another, with something that `separator` finds between any
two. -/
def separated (separator : Scanner β) (x : Scanner α) : Scanner (List α) := do
  let first ← x
  let others ← many (do
    let _ ← separator
    x)
  return first :: others

/-- The end of the text. -/
def finish : Scanner Unit
  | [] => some ((), [])
  | _ :: _ => none

/-- What `x` finds in the whole of a text. -/
def parse? (x : Scanner α) (text : List Char) : Option α :=
  match x text with
  | some (a, []) => some a
  | _ => none

theorem bind_apply (x : Scanner α) (f : α → Scanner β) (s : List Char) :
    (x >>= f) s = match x s with
      | some (a, s) => f a s
      | none => none := rfl

end Scanner

end FragmentRunner.Toml
