import FragmentRunner.Text.Blank
import FragmentRunner.Text.Identifier

/-!
# Fragments

A fragment is a piece of source text that a user enters. Its kind is read off its first words. What
it imports goes in front of the unit, a statement goes into its body, and a `return` is refused,
because it would leave the body before its end. A fragment is kept as it was entered, white space
included.
-/

namespace FragmentRunner

/-- Where a fragment goes. -/
inductive FragmentKind
  /-- An import, which goes in front of the unit. -/
  | imported
  /-- A statement, which goes into the body of the unit. -/
  | statement
deriving DecidableEq

/-- The rest of a text after `start`, if the text begins with it. -/
def dropStart? : (start text : List Char) → Option (List Char)
  | [], text => some text
  | c :: start, d :: text => if c = d then dropStart? start text else none
  | _ :: _, [] => none

/-- Whether a text ends or goes on with a character that no identifier has. -/
def endsWord : List Char → Bool
  | [] => true
  | c :: _ => !Text.continuesIdentifier c

/-- Whether `keyword` stands at the start of a text, after white space, as a word of its own. -/
def startsWithKeyword (keyword text : List Char) : Bool :=
  match dropStart? keyword (Text.trimStart text) with
  | some rest => endsWord rest
  | none => false

/-- Whether a text starts with `extern crate`, after white space. -/
def startsWithExternCrate (text : List Char) : Bool :=
  match dropStart? "extern".toList (Text.trimStart text) with
  | some rest => startsWithKeyword "crate".toList rest && Text.startsBlank rest
  | none => false

/-- Whether a fragment is refused. -/
def isReturn (text : String) : Bool :=
  startsWithKeyword "return".toList text.toList

/-- Whether a fragment is an import. -/
def isImport (text : String) : Bool :=
  startsWithKeyword "use".toList text.toList || startsWithExternCrate text.toList

/-- The kind of a fragment, unless it is refused. -/
def FragmentKind.of? (text : String) : Option FragmentKind :=
  if isReturn text then none else if isImport text then some .imported else some .statement

end FragmentRunner
