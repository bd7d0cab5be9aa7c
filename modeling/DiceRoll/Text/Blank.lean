import DiceRoll.Text.Basic

/-!
# Blanks

The characters with the Unicode property White_Space, which may stand around a number. The control
characters U+001C to U+001F and the zero-width characters are not among them; the former separate
words all the same.
-/

namespace DiceRoll.Text

/-- The 25 blank characters. -/
def blankRanges : List (Nat × Nat) := [
  (0x09, 0x0D), (0x20, 0x20), (0x85, 0x85), (0xA0, 0xA0), (0x1680, 0x1680), (0x2000, 0x200A),
  (0x2028, 0x2029), (0x202F, 0x202F), (0x205F, 0x205F), (0x3000, 0x3000)]

/-- Whether a character is a blank. -/
def isBlank (c : Char) : Bool :=
  inRanges blankRanges c

/-- Whether a character separates words: a blank, or one of the four information separators. -/
def isSpace (c : Char) : Bool :=
  isBlank c || ('\x1c' ≤ c && c ≤ '\x1f')

/-- The text without the blanks at its end. -/
def trimEnd (s : Text) : Text :=
  (s.reverse.dropWhile isBlank).reverse

/-- The text without the white space at either end. -/
def trimSpace (s : Text) : Text :=
  ((s.dropWhile isSpace).reverse.dropWhile isSpace).reverse

/-- The text without the blanks at either end. -/
def trim (s : Text) : Text :=
  trimEnd (s.dropWhile isBlank)

end DiceRoll.Text
