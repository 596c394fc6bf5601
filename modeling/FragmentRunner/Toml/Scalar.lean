import FragmentRunner.Toml.Scanner
import FragmentRunner.Toml.Value

/-!
# Texts, numbers and times in a TOML document

The values that are not made of other values. Between quotes and in comments every character may
stand except control characters other than the tab; a text in triple quotes may hold line ends,
which are read as line feeds. Integers have 64 bits. A number with a decimal point or an exponent
is refused if it is too large for a binary number of 64 bits, unless it is negative.
-/

namespace FragmentRunner.Toml

open Scanner

/-! ## Characters -/

/-- Whether a character may stand in a comment and between quotes. -/
def isPlain (c : Char) : Bool :=
  c = '\t' || (' ' ≤ c && c ≠ '\x7f')

/-- Whether a character is white space inside a line. -/
def isGap (c : Char) : Bool :=
  c = ' ' || c = '\t'

/-- Whether a character is a digit. -/
def isDigit (c : Char) : Bool :=
  '0' ≤ c && c ≤ '9'

/-- Whether a character is a digit in base 16. -/
def isHexDigit (c : Char) : Bool :=
  isDigit c || ('a' ≤ c && c ≤ 'f') || ('A' ≤ c && c ≤ 'F')

/-- White space inside a line, possibly none. -/
def gap : Scanner Unit := do
  let _ ← run isGap

/-- A line end: a line feed, perhaps after a carriage return. -/
def lineEnd : Scanner Char := do
  let _ ← optional (char '\r')
  char '\n'

/-! ## Texts -/

/-- The character with a given code, if there is one. -/
def charOfCode? (code : Nat) : Option Char :=
  if h : code.isValidChar then some (Char.ofNatAux code h) else none

/-- The value of a digit in a base up to 16. -/
def digitValue (c : Char) : Nat :=
  if isDigit c then c.toNat - '0'.toNat
  else if 'a' ≤ c then c.toNat - 'a'.toNat + 10
  else c.toNat - 'A'.toNat + 10

/-- The number that digits stand for in a base. -/
def ofDigits (base : Nat) (digits : List Char) : Nat :=
  digits.foldl (fun n c => n * base + digitValue c) 0

/-- The character whose code is written with `n` digits in base 16. -/
def codedChar (n : Nat) : Scanner Char := do
  ofOption (charOfCode? (ofDigits 16 (← times n (charWhere isHexDigit))))

/-- The character that a backslash and what follows it stand for. -/
def escaped : Scanner Char := do
  let _ ← char '\\'
  match ← charWhere fun _ => true with
  | '"' => return '"'
  | '\\' => return '\\'
  | 'b' => return '\x08'
  | 't' => return '\t'
  | 'n' => return '\n'
  | 'f' => return '\x0c'
  | 'r' => return '\r'
  | 'u' => codedChar 4
  | 'U' => codedChar 8
  | _ => fail

/-- A character that stands for itself between quotes `quote`; the double quotes leave out the
backslash, too. -/
def unescaped (quote : Char) : Scanner Char :=
  charWhere fun c => isPlain c && c ≠ quote && (quote ≠ '"' || c ≠ '\\')

/-- A text in double quotes. -/
def basicText : Scanner String := do
  let _ ← char '"'
  let chars ← many (unescaped '"' <|> escaped)
  let _ ← char '"'
  return String.ofList chars

/-- A text in single quotes. -/
def literalText : Scanner String := do
  let _ ← char '\''
  let chars ← many (unescaped '\'')
  let _ ← char '\''
  return String.ofList chars

/-- One or two quotes without a third, which do not end a text in triple quotes. -/
def fewQuotes (quote : Char) : Scanner (List Char) := do
  let quotes ← run (· = quote)
  ensure (0 < quotes.length && quotes.length < 3)
  return quotes

/-- The quotes that end a text in triple quotes; up to two more in front of them belong to the
text. -/
def closingQuotes (quote : Char) : Scanner (List Char) := do
  let quotes ← run (· = quote)
  -- Three quotes end the text, and those before them belong to it.
  ensure (3 ≤ quotes.length && quotes.length ≤ 5)
  return quotes.drop 3

/-- A backslash at the end of a line, with all white space and line ends up to the next
character. -/
def continuation : Scanner (List Char) := do
  let _ ← char '\\'
  gap
  let _ ← lineEnd
  let _ ← many (charWhere isGap <|> lineEnd)
  return []

/-- A part of a text in triple quotes. -/
def longPart (quote : Char) : Scanner (List Char) :=
  (do return [← unescaped quote])
    <|> (do return [← lineEnd])
    <|> fewQuotes quote
    <|> (do
      -- Between single quotes a backslash stands for itself.
      ensure (quote = '"')
      continuation <|> (do return [← escaped]))

/-- A text in triple quotes; a line end right after the opening quotes is not part of it. -/
def longText (quote : Char) : Scanner String := do
  let _ ← word [quote, quote, quote]
  let _ ← optional lineEnd
  let parts ← many (longPart quote)
  let last ← closingQuotes quote
  return String.ofList (parts.flatten ++ last)

/-- A text. -/
def text : Scanner String :=
  -- Three quotes begin like an empty text, so the long texts are tried first.
  longText '"' <|> basicText <|> longText '\'' <|> literalText

/-! ## Numbers -/

/-- Digits with single underscores between them; the underscores are dropped. -/
def digits (p : Char → Bool) : Scanner (List Char) := do
  let first ← charWhere p
  let others ← many (charWhere p <|> (do
    let _ ← char '_'
    charWhere p))
  return first :: others

/-- A sign, if there is one: whether it is a minus. -/
def sign : Scanner Bool :=
  (do let _ ← char '-'; return true) <|> (do let _ ← char '+'; return false) <|> return false

/-- The digits of a number in base 10, which does not begin with a zero unless it is zero. -/
def wholeDigits : Scanner (List Char) :=
  (do let zero ← char '0'; return [zero]) <|> digits isDigit

/-- Whether a number fits into 64 bits. -/
def fits (n : Int) : Bool :=
  -0x8000000000000000 ≤ n && n ≤ 0x7FFFFFFFFFFFFFFF

/-- A number in a base other than 10, which a letter tells. -/
def based (letter : Char) (base : Nat) (p : Char → Bool) : Scanner Int := do
  word ['0', letter]
  return ofDigits base (← digits p)

/-- A number in base 10. -/
def plainInteger : Scanner Int := do
  let negative ← sign
  let n : Int := ofDigits 10 (← wholeDigits)
  return if negative then -n else n

/-- An integer. -/
def integer : Scanner Int := do
  -- The letter of a base follows a zero, so decimal digits are tried last.
  let n ← based 'x' 16 isHexDigit
    <|> based 'o' 8 (fun c => '0' ≤ c && c ≤ '7')
    <|> based 'b' 2 (fun c => c = '0' || c = '1')
    <|> plainInteger
  ensure (fits n)
  return n

/-- The least number that rounds to infinity as a binary number of 64 bits. -/
def overflowBound : Nat := (Nat.pow 2 54 - 1) * Nat.pow 2 970

/-- Whether `digits * 10 ^ exponent` rounds to infinity as a binary number of 64 bits. Only numbers
whose first digit is near the bound have to be computed. -/
def overflows (digits : Nat) (exponent : Int) : Bool :=
  let magnitude := exponent + (Nat.toDigits 10 digits).length
  -- The bound lies between the powers 308 and 310 of ten.
  if digits = 0 || magnitude ≤ 308 then false
  else if 310 < magnitude then true
  else overflowBound * Nat.pow 10 (-exponent).toNat ≤ digits * Nat.pow 10 exponent.toNat

/-- The exponent of a number. -/
def exponentPart : Scanner Int := do
  let _ ← charWhere fun c => c = 'e' || c = 'E'
  let negative ← sign
  let n : Int := ofDigits 10 (← digits isDigit)
  return if negative then -n else n

/-- The digits after a decimal point. -/
def fractionPart : Scanner (List Char) := do
  let _ ← char '.'
  digits isDigit

/-- The digits after a decimal point, perhaps none, and the exponent, perhaps zero; one of them is
there. -/
def fractionAndExponent : Scanner (List Char × Int) :=
  (do return ([], ← exponentPart))
    <|> (do return (← fractionPart, (← optional exponentPart).getD 0))

/-- A number with a decimal point or an exponent. -/
def finiteDecimal : Scanner Decimal := do
  let negative ← sign
  let whole ← wholeDigits
  let (fraction, exponent) ← fractionAndExponent
  let n := ofDigits 10 (whole ++ fraction)
  let exponent := exponent - fraction.length
  -- A negative number that is too large is minus infinity and not refused.
  ensure (negative || !overflows n exponent)
  return .finite negative n exponent

/-- Infinity, or what is not a number. -/
def specialDecimal : Scanner Decimal := do
  let negative ← sign
  (do word ['i', 'n', 'f']; return .infinite negative)
    <|> (do word ['n', 'a', 'n']; return .notANumber)

/-- A number that is not written as an integer. -/
def decimal : Scanner Decimal :=
  finiteDecimal <|> specialDecimal

/-- A truth value. -/
def boolean : Scanner Bool :=
  (do word "true".toList; return true) <|> (do word "false".toList; return false)

/-! ## Dates and times -/

/-- A number of exactly `n` digits between two bounds. -/
def bounded (n low high : Nat) : Scanner Nat := do
  let value := ofDigits 10 (← times n (charWhere isDigit))
  ensure (low ≤ value && value ≤ high)
  return value

/-- The number of days in a month. -/
def daysInMonth (year month : Nat) : Nat :=
  if month = 2 then
    if year % 4 = 0 && (year % 100 ≠ 0 || year % 400 = 0) then 29 else 28
  else if month ∈ [4, 6, 9, 11] then 30
  else 31

/-- A date. -/
def date : Scanner Date := do
  let year ← bounded 4 0 9999
  let _ ← char '-'
  let month ← bounded 2 1 12
  let _ ← char '-'
  let day ← bounded 2 1 (daysInMonth year month)
  return { year, month, day }

/-- The nanoseconds that the digits of a fraction of a second stand for; digits past the ninth are
dropped. -/
def nanoseconds (fraction : List Char) : Nat :=
  ofDigits 10 (fraction.take 9) * Nat.pow 10 (9 - fraction.length)

/-- A fraction of a second, in nanoseconds. -/
def secondFraction : Scanner Nat := do
  let _ ← char '.'
  let first ← charWhere isDigit
  -- One digit at least must follow the point.
  return nanoseconds (first :: (← run isDigit))

/-- A time of the day; the second 60 is a leap second. -/
def time : Scanner Time := do
  let hour ← bounded 2 0 23
  let _ ← char ':'
  let minute ← bounded 2 0 59
  let _ ← char ':'
  let second ← bounded 2 0 60
  let fraction ← optional secondFraction
  return { hour, minute, second, nanosecond := fraction.getD 0 }

/-- The distance from universal time, in minutes. -/
def offset : Scanner Int :=
  (do
    let _ ← charWhere fun c => c = 'Z' || c = 'z'
    return 0)
  <|> (do
    let mark ← charWhere fun c => c = '+' || c = '-'
    let hours ← bounded 2 0 23
    let _ ← char ':'
    let minutes ← bounded 2 0 59
    let distance : Int := hours * 60 + minutes
    return if mark = '-' then -distance else distance)

/-- The time that follows a date, and its distance from universal time. -/
def timeOfDate : Scanner (Time × Option Int) := do
  -- A space separates date and time only if a time follows; `optional` takes it back otherwise.
  let _ ← charWhere fun c => c = 'T' || c = 't' || c = ' '
  return (← time, ← optional offset)

/-- A date, a time, or both. -/
def moment : Scanner Moment :=
  (do
    let date ← date
    let rest ← optional timeOfDate
    return { date := some date, time := rest.map (·.1), offset := rest.bind (·.2) })
  <|> (do return { date := none, time := some (← time), offset := none })

end FragmentRunner.Toml
