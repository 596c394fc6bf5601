import FragmentRunner.Toml.Scalar

/-!
# TOML documents

A document is a sequence of lines that add to one table. A line gives a value to a key, or is a
header, which names the table that the following lines add to. `parse?` is the table of a document;
a text that is no document has none.

Keys of many parts and values inside of values are bounded, `maxNesting`.
-/

namespace FragmentRunner.Toml

open Scanner

/-- How many lists and inline tables a value may be nested in, and how many parts a key may have. -/
def maxNesting : Nat := 79

/-! ## Keys and comments -/

/-- Whether a character may stand in a key without quotes. -/
def isKeyChar (c : Char) : Bool :=
  isDigit c || ('a' ≤ c && c ≤ 'z') || ('A' ≤ c && c ≤ 'Z') || c = '-' || c = '_'

/-- One part of a key. -/
def keyPart : Scanner String :=
  basicText <|> literalText <|> (do
    let first ← charWhere isKeyChar
    return String.ofList (first :: (← run isKeyChar)))

/-- What `x` finds, with white space around it. -/
def spaced {α : Type} (x : Scanner α) : Scanner α := do
  gap
  let found ← x
  gap
  return found

/-- A key: its parts, of which there is at least one. -/
def key : Scanner (List String) := do
  let parts ← separated (char '.') (spaced keyPart)
  ensure (parts.length ≤ maxNesting)
  return parts

/-- A comment. -/
def comment : Scanner Unit := do
  let _ ← char '#'
  let _ ← run isPlain

/-- Adds a value under a key that is given by its parts. -/
def assignAt (parts : List String) (value : Value) (t : Table) : Option Table :=
  match parts with
  | [] => none
  | first :: rest => t.assign first rest value

/-! ## Values -/

/-- White space, comments and line ends inside a list. -/
def filler : Scanner Unit := do
  let _ ← many (charWhere isGap <|> (do
    let _ ← optional comment
    lineEnd))

/-- A value that is not made of other values. -/
def scalar : Scanner Value :=
  -- A moment begins like a number, and a number with a fraction like an integer.
  (do return .text (← text))
    <|> (do return .moment (← moment))
    <|> (do return .decimal (← decimal))
    <|> (do return .integer (← integer))
    <|> (do return .boolean (← boolean))

/-- A list of what `item` finds; a comma may follow the last one. -/
def listOf {α : Type} (item : Scanner α) : Scanner (List α) := do
  let _ ← char '['
  let items ← optional (separated (char ',') (do
    filler
    let found ← item
    filler
    return found))
  -- An empty list has no comma.
  if items.isSome then
    let _ ← optional (char ',')
  filler
  let _ ← char ']'
  return items.getD []

/-- A key, an equals sign and what `value` finds. -/
def assignment (value : Scanner Value) : Scanner (List String × Value) := do
  let parts ← key
  let _ ← char '='
  gap
  return (parts, ← value)

/-- The table that assignments make, in order. -/
def tableOf? (entries : List (List String × Value)) : Option Table :=
  entries.foldlM (fun t (parts, value) => assignAt parts value t) (Table.empty .braces)

/-- A table between braces. -/
def inlineTable (value : Scanner Value) : Scanner Table := do
  let _ ← char '\x7b'
  let entries ← optional (separated (char ',') (spaced (assignment value)))
  gap
  let _ ← char '\x7d'
  -- Two assignments may contradict each other, and then there is no table.
  ofOption (tableOf? (entries.getD []))

/-- A value that is nested at most `depth` deep. -/
def value : (depth : Nat) → Scanner Value
  | 0 => scalar
  | depth + 1 =>
    (do return .list (← listOf (value depth)))
      <|> (do return .table (← inlineTable (value depth)))
      <|> scalar

/-! ## Lines -/

/-- What a line says. -/
inductive Line
  | empty
  | assignment (parts : List String) (value : Value)
  | header (parts : List String)
  | elementHeader (parts : List String)

/-- The end of a line after what it says, or of the document. -/
def closing : Scanner Unit := do
  gap
  let _ ← optional comment
  (do let _ ← lineEnd) <|> finish

/-- A header, between `opening` and `close`. -/
def headerBetween (opening close : List Char) : Scanner (List String) := do
  word opening
  let parts ← key
  word close
  closing
  return parts

/-- A line that says something, or a line end. -/
def line : Scanner Line :=
  (do
    comment
    (do let _ ← lineEnd) <|> finish
    return .empty)
  <|> (do
    let _ ← lineEnd
    return .empty)
  -- Double brackets begin like single ones, so they are tried first.
  <|> (do return .elementHeader (← headerBetween ['[', '['] [']', ']']))
  <|> (do return .header (← headerBetween ['['] [']']))
  <|> (do
    let (parts, value) ← assignment (value maxNesting)
    closing
    return .assignment parts value)

/-- The lines of a document, which may begin with a byte order mark. -/
def lines : Scanner (List Line) := do
  let _ ← optional (char '\uFEFF')
  gap
  many (do
    let found ← line
    gap
    return found)

/-- A document as far as it has been read: its table, and the keys that lead to the table that
lines add to. -/
structure Progress where
  root : Table
  path : List String

namespace Progress

/-- The document before its first line. -/
def start : Progress := { root := .empty .header, path := [] }

/-- Edits the table that lines add to. -/
def edit (p : Progress) (path : List String) (change : Table → Option Table) : Option Progress :=
  (p.root.within path change).map fun root => { root, path }

/-- Makes a header of keys, given the way to change the table above for the last key. -/
def atHeader (p : Progress) (parts : List String) (change : String → Table → Option Table) :
    Option Progress :=
  match parts.reverse with
  | [] => none
  -- The change is made where the keys above lead; the lines after it add below the last key.
  | last :: above => (p.edit above.reverse (change last)).map fun p => { p with path := parts }

/-- Adds what a line says. -/
def add (p : Progress) : Line → Option Progress
  | .empty => some p
  | .assignment parts value => p.edit p.path (assignAt parts value)
  | .header parts => p.atHeader parts Table.openTable
  | .elementHeader parts => p.atHeader parts Table.addElement

end Progress

/-- The table of a document, if the text is one. -/
def parse? (text : List Char) : Option Table := do
  let lines ← lines.parse? text
  let document ← lines.foldlM Progress.add .start
  return document.root

end FragmentRunner.Toml
