/-!
# Values and tables of a TOML document

A table lists its keys in the order in which they were first met, and remembers how it came to be:
that decides what may still be added to it. Nothing is ever added to what is written between braces
or brackets; a table with a header of its own is added to under that header only; a table that a
header or a dotted key passed through may be passed through again.

* `Table.assign` adds a value under a dotted key.
* `Table.openTable` and `Table.addElement` are what headers do, `Table.within` goes to the place
  where they do it.
-/

namespace FragmentRunner.Toml

/-- How a table came to be. -/
inductive Origin
  /-- It is written between braces. -/
  | braces
  /-- It has a header of its own. -/
  | header
  /-- The header of a table inside it passed through it, and it has no header so far. -/
  | passed
  /-- A dotted key passed through it. -/
  | dotted
deriving DecidableEq

/-- A day of the calendar. -/
structure Date where
  year : Nat
  month : Nat
  day : Nat
deriving DecidableEq

/-- A time of the day. -/
structure Time where
  hour : Nat
  minute : Nat
  second : Nat
  nanosecond : Nat
deriving DecidableEq

/-- A date, a time, or both; with both there may be the distance from universal time, in
minutes. -/
structure Moment where
  date : Option Date
  time : Option Time
  offset : Option Int
deriving DecidableEq

/-- A number with a decimal point or an exponent, which is kept as it is written: the value is
`digits * 10 ^ exponent` with its sign. -/
inductive Decimal
  | finite (negative : Bool) (digits : Nat) (exponent : Int)
  | infinite (negative : Bool)
  | notANumber
deriving DecidableEq

mutual

/-- What can stand behind a key. -/
inductive Value
  | text (s : String)
  | integer (n : Int)
  | decimal (d : Decimal)
  | boolean (b : Bool)
  | moment (m : Moment)
  /-- A list between brackets. -/
  | list (items : List Value)
  | table (t : Table)
  /-- The tables whose headers, in double brackets, share a name. -/
  | tables (items : List Table)

/-- Keys with their values. -/
inductive Table
  | mk (origin : Origin) (entries : List (String × Value))

end

namespace Table

/-- How the table came to be. -/
def origin : Table → Origin
  | mk origin _ => origin

/-- The keys of the table with their values. -/
def entries : Table → List (String × Value)
  | mk _ entries => entries

/-- The table without keys. -/
def empty (origin : Origin) : Table := mk origin []

/-- The value behind a key, if there is one. -/
def get? (t : Table) (key : String) : Option Value :=
  t.entries.lookup key

/-- The entries with the value behind `key` replaced, or added at the end. -/
def setEntry (key : String) (value : Value) : List (String × Value) → List (String × Value)
  | [] => [(key, value)]
  | (k, v) :: rest => if k = key then (k, value) :: rest else (k, v) :: setEntry key value rest

/-- The table with another value behind a key. -/
def set (t : Table) (key : String) (value : Value) : Table :=
  mk t.origin (setEntry key value t.entries)

/-- Applies `edit` to the last of a list of tables. -/
def editLast (edit : Table → Option Table) : List Table → Option (List Table)
  | [] => none
  | [t] => (edit t).map ([·])
  | t :: rest => (editLast edit rest).map (t :: ·)

/-- Adds a value under the key `key`, or under a dotted key that begins with it. The last key must
be new. The tables on the way are made as they are needed; what stands there already must have been
passed through before, and the table that the value goes into by dotted keys only. -/
def assign : (key : String) → (rest : List String) → Value → Table → Option Table
  | key, [], value, t =>
    match t.get? key with
    | none => some (t.set key value)
    | some _ => none
  | key, next :: rest, value, t =>
    match t.get? key with
    | none => (assign next rest value (empty .dotted)).map fun child => t.set key (.table child)
    | some (.table child) =>
      -- A table that headers passed through may be passed through, but no value goes right into it.
      if child.origin = .dotted ∨ (child.origin = .passed ∧ rest ≠ []) then
        (assign next rest value child).map fun child => t.set key (.table child)
      else none
    | some (.tables items) =>
      -- Dotted keys pass through the last of the tables, and do not add to it.
      if rest = [] then none
      else (editLast (assign next rest value) items).map fun items => t.set key (.tables items)
    | some _ => none

/-- Edits the table that the keys of a header lead to, through the last table of each list of
tables on the way. -/
def within : List String → (Table → Option Table) → Table → Option Table
  | [], edit, t => edit t
  | key :: rest, edit, t =>
    match t.get? key with
    | none => (within rest edit (empty .passed)).map fun child => t.set key (.table child)
    | some (.table child) =>
      -- What is written between braces is complete.
      if child.origin = .braces then none
      else (within rest edit child).map fun child => t.set key (.table child)
    | some (.tables items) =>
      (editLast (within rest edit) items).map fun items => t.set key (.tables items)
    | some _ => none

/-- Gives the table behind `key` its header: it must be new, or passed through by headers only. -/
def openTable (key : String) (t : Table) : Option Table :=
  match t.get? key with
  | none => some (t.set key (.table (empty .header)))
  | some (.table child) =>
    if child.origin = .passed then some (t.set key (.table (mk .header child.entries))) else none
  | some _ => none

/-- Adds an empty table to the list of tables behind `key`. -/
def addElement (key : String) (t : Table) : Option Table :=
  match t.get? key with
  | none => some (t.set key (.tables [empty .header]))
  | some (.tables items) => some (t.set key (.tables (items ++ [empty .header])))
  | some _ => none

end Table

end FragmentRunner.Toml
