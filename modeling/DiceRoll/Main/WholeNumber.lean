import DiceRoll.Text.Numeral

/-!
# Whole numbers

The integers that users set are read as a library was seen to read them, in two attempts. The first
takes the text as a canonical numeral: an optional minus sign and digits without a leading zero. The
second tidies the text first. It drops the blanks around it, a plus sign, leading zeros with the
underscores among them, a fraction of zeros, and single underscores; a minus sign may stand in front
of all or right after the leading zeros.

Only a text that begins as a canonical numeral is refused for its length; tidied texts that are
too long count as malformed.
-/

namespace DiceRoll.Text

/-- Why a text is not the value of a whole number. -/
inductive WholeFault where
  /-- The text is not written as a whole number. -/
  | malformed
  /-- The number has too many digits. -/
  | tooLong
deriving DecidableEq, Repr

/-- The text after a leading minus sign, and whether there is one. -/
def splitMinus : Text → Bool × Text
  | '-' :: s => (true, s)
  | s => (false, s)

/-- Reads a canonical numeral, of which only zero begins with a zero. -/
def canonical (s : Text) : Except WholeFault Int :=
  let (negative, unsigned) := splitMinus s
  let digits := unsigned.takeWhile Char.isDigit
  if unsigned.head? = some '0' then
    if unsigned = ['0'] then .ok 0 else .error .malformed
  else if maxDigits < digits.length then .error .tooLong
  else if isDigits unsigned then .ok (signed negative unsigned)
  else .error .malformed

/-- Whether a character begins a number once leading zeros are dropped. -/
def beginsNumber (c : Char) : Bool :=
  (c.isDigit && c != '0') || c == '-'

/-- A text without the zeros and underscores at its start, where `last` is the character before
it. The last of them stays before a point and at the end. -/
def dropZerosAfter (last : Char) : Text → Option Text
  | [] => some [last]
  | c :: rest =>
    if c = '0' ∨ c = '_' then dropZerosAfter c rest
    else if c = '.' then some (last :: c :: rest)
    else if beginsNumber c then some (c :: rest)
    else none

/-- A text that begins with a digit without its leading zeros. -/
def dropLeadingZeros : Text → Option Text
  | [] => none
  | c :: rest =>
    if c = '0' then dropZerosAfter c rest
    else if c.isDigit then some (c :: rest)
    else none

/-- A text without a fraction of zeros, if it has one. -/
def dropZeroFraction (s : Text) : Text :=
  match s.span (· ≠ '.') with
  | (whole, _ :: fraction) =>
    if !fraction.isEmpty && fraction.all (· = '0') then whole else s
  | (_, []) => s

/-- A text without its underscores; `none` when one stands at an end or beside another. -/
def ungroup? (s : Text) : Option Text :=
  let groups := s.splitOn '_'
  if groups.all (!·.isEmpty) then some groups.flatten else none

/-- A text as tidy as it can be made. -/
def tidy? (s : Text) : Option Text := do
  let (negative, unsigned) := splitSign (trim s)
  let digits ← ungroup? (dropZeroFraction (← dropLeadingZeros unsigned))
  return if negative then '-' :: digits else digits

/-- The value of a text that has been tidied, if it has one. -/
def tidied? (s : Text) : Option Int := do
  let tidy ← tidy? s
  (canonical tidy).toOption

/-- Reads a whole number. -/
def wholeNumber (s : Text) : Except WholeFault Int :=
  match canonical s, tidied? s with
  | .ok n, _ => .ok n
  | .error .tooLong, _ => .error .tooLong
  | .error .malformed, some n => .ok n
  | .error .malformed, none => .error .malformed

end DiceRoll.Text
