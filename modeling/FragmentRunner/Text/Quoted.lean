import FragmentRunner.Text.Printable

/-!
# Quoted and escaped text

Two ways to show arbitrary text on a terminal. `quote` puts a text between double quotes, with an
escape for every character that would not be seen as itself; a command line is logged as the quoted
name of a program (`quoteName`) and its quoted arguments. `escapeControls` leaves a text readable
and replaces only the characters that could steer the terminal; every logged message goes through
it.
-/

namespace FragmentRunner.Text

/-- The digits of `n` in base sixteen, in lower case. -/
def hexDigits (n : Nat) : List Char :=
  Nat.toDigits 16 n

/-- A code point as backslash, `u` and its digits in braces. -/
def unicodeEscape (c : Char) : List Char :=
  ['\\', 'u', '\x7b'] ++ hexDigits c.toNat ++ ['\x7d']

/-- A code below 256 as backslash, `x` and two digits. -/
def byteEscape (c : Char) : List Char :=
  ['\\', 'x'] ++ (if c.toNat < 16 then ['0'] else []) ++ hexDigits c.toNat

/-- A character inside double quotes. -/
def quoteChar (c : Char) : List Char :=
  if c.toNat = 0 then ['\\', '0']
  else if c = '\t' then ['\\', 't']
  else if c = '\r' then ['\\', 'r']
  else if c = '\n' then ['\\', 'n']
  else if c = '\"' || c = '\\' then ['\\', c]
  else if isPrintable c then [c]
  else unicodeEscape c

/-- A text between double quotes. -/
def quote (s : List Char) : List Char :=
  ['\"'] ++ s.flatMap quoteChar ++ ['\"']

/-- A character of the name of a program inside double quotes: a single quote has a backslash, and
an ASCII control character without a letter of its own is written as its byte. -/
def quoteNameChar (c : Char) : List Char :=
  if c = '\'' then ['\\', c]
  else if (c.toNat < 0x20 && !([0, 0x09, 0x0A, 0x0D].contains c.toNat)) || c.toNat = 0x7F then
    byteEscape c
  else quoteChar c

/-- The name of a program between double quotes. -/
def quoteName (s : List Char) : List Char :=
  ['\"'] ++ s.flatMap quoteNameChar ++ ['\"']

/-- A character of a logged message: escape, bell, backspace, form feed, delete and the control
characters above the ASCII range are written as their codes. -/
def escapeControl (c : Char) : List Char :=
  if [0x1B, 0x07, 0x08, 0x0C, 0x7F].contains c.toNat then byteEscape c
  else if 0x80 ≤ c.toNat && c.toNat ≤ 0x9F then unicodeEscape c
  else [c]

/-- A logged message that cannot steer the terminal. -/
def escapeControls (s : List Char) : List Char :=
  s.flatMap escapeControl

end FragmentRunner.Text
