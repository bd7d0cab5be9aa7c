import DiceRoll.Text.Printable

/-!
# Quoted text

Text for diagnostics, between quotes. The quote is single, or double when the text holds a single
one and no double one. The quote and the backslash are escaped with a backslash, as are tab, line
feed and carriage return by their letters; every other character that is not printable is written
by its code point in two, four or eight hexadecimal digits.
-/

namespace DiceRoll.Text

/-- The lower-case hexadecimal digits of a number, padded with zeros to a width. -/
def paddedHex (width n : Nat) : Text :=
  let digits := Nat.toDigits 16 n
  List.replicate (width - digits.length) '0' ++ digits

/-- A code point as an escape, in the narrowest of the three widths that holds it. -/
def codePointEscape (n : Nat) : Text :=
  if n < 0x100 then '\\' :: 'x' :: paddedHex 2 n
  else if n < 0x10000 then '\\' :: 'u' :: paddedHex 4 n
  else '\\' :: 'U' :: paddedHex 8 n

/-- How a character is written between quotes of the given kind. -/
def escapeChar (quote c : Char) : Text :=
  if c = quote ∨ c = '\\' then ['\\', c]
  else if c = '\t' then ['\\', 't']
  else if c = '\n' then ['\\', 'n']
  else if c = '\r' then ['\\', 'r']
  else if isPrintable c then [c]
  else codePointEscape c.toNat

/-- The quote that stands around a text. -/
def quoteFor (s : Text) : Char :=
  if s.contains '\'' && !s.contains '"' then '"' else '\''

/-- The text between quotes. -/
def quoted (s : Text) : Text :=
  quoteFor s :: s.flatMap (escapeChar (quoteFor s)) ++ [quoteFor s]

end DiceRoll.Text
