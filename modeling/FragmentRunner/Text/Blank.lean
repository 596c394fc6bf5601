import FragmentRunner.Text.CodeRanges
import FragmentRunner.Text.Pieces

/-!
# White space

The property `White_Space` of Unicode, and what is built on it: trimming and splitting into
words. Everything here works on a list of characters.
-/

namespace FragmentRunner.Text

/-- The code points with the property `White_Space`. -/
def whiteSpace : CodeRanges := [
  (0x9, 0xD), (0x20, 0x20), (0x85, 0x85), (0xA0, 0xA0), (0x1680, 0x1680), (0x2000, 0x200A),
  (0x2028, 0x2029), (0x202F, 0x202F), (0x205F, 0x205F), (0x3000, 0x3000)]

/-- Whether `c` is white space. -/
def isBlank (c : Char) : Bool :=
  whiteSpace.has c

/-- Whether a text starts with white space. -/
def startsBlank : List Char → Bool
  | [] => false
  | c :: _ => isBlank c

/-- The text without its leading white space. -/
def trimStart (s : List Char) : List Char :=
  s.dropWhile isBlank

/-- The text without its trailing white space. -/
def trimEnd (s : List Char) : List Char :=
  (s.reverse.dropWhile isBlank).reverse

/-- The text without the white space at both of its ends. -/
def trim (s : List Char) : List Char :=
  trimEnd (trimStart s)

/-- White space is dropped only where there is some. -/
theorem dropWhile_isBlank_of_not {s : List Char} (h : startsBlank s = false) :
    s.dropWhile isBlank = s := by
  cases s with
  | nil => rfl
  | cons c rest => exact List.dropWhile_cons_of_neg (by simpa [startsBlank] using h)

/-- A text that neither begins nor ends with white space is not trimmed. -/
theorem trim_eq_self {s : List Char} (hstart : startsBlank s = false)
    (hend : startsBlank s.reverse = false) : trim s = s := by
  rw [trim, trimEnd, trimStart, dropWhile_isBlank_of_not hstart, dropWhile_isBlank_of_not hend,
    List.reverse_reverse]

/-- The maximal runs of characters other than white space, in order. -/
def words (s : List Char) : List (List Char) :=
  (pieces isBlank s).filter fun word => !word.isEmpty

/-- The words of a text with one space between any two. -/
def unwords (ws : List (List Char)) : List Char :=
  List.intercalate [' '] ws

end FragmentRunner.Text
