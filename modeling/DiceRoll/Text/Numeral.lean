import DiceRoll.Text.Blank

/-!
# Numerals

An integer is written as an optional sign and decimal digits. A numeral has at most
`maxDigits` digits, leading zeros counted and the sign not, whether it is read or written.

The literals of dice formulas may stand between blanks and have either sign.
-/

namespace DiceRoll.Text

/-- The greatest number of digits in a numeral. -/
def maxDigits : Nat := 4300

/-- Whether a text is a run of ASCII digits, at least one of them. -/
def isDigits (s : Text) : Bool :=
  !s.isEmpty && s.all Char.isDigit

/-- The text after a leading sign, and whether that sign is a minus. -/
def splitSign : Text → Bool × Text
  | '+' :: s => (false, s)
  | '-' :: s => (true, s)
  | s => (false, s)

/-- The integer with the given sign and digits. -/
def signed (negative : Bool) (digits : Text) : Int :=
  let magnitude : Int := Nat.ofDigitChars 10 digits 0
  if negative then -magnitude else magnitude

/-- The value of a literal; `none` when the text is no literal or has too many digits. -/
def literal? (s : Text) : Option Int :=
  let (negative, digits) := splitSign (trim s)
  if isDigits digits && digits.length ≤ maxDigits then some (signed negative digits) else none

/-- An integer in decimal, without a limit on its length. -/
def ofInt (n : Int) : Text :=
  if n < 0 then '-' :: Nat.toDigits 10 n.natAbs else Nat.toDigits 10 n.natAbs

/-- An integer is too long to be written. -/
structure TooLong where
deriving DecidableEq, Repr

/-- The wording of the complaint about an integer that is too long. -/
def TooLong.message : Text :=
  "Exceeds the limit (".toList ++ ofInt maxDigits ++
    " digits) for integer string conversion; ".toList ++
    "use sys.set_int_max_str_digits() to increase the limit".toList

/-- Whether an integer has few enough digits to be written. -/
def fits (n : Int) : Bool :=
  (Nat.toDigits 10 n.natAbs).length ≤ maxDigits

/-- An integer in decimal, within the limit on its digits. -/
def decimal (n : Int) : Except TooLong Text :=
  if fits n then .ok (ofInt n) else .error {}

/-- An integer is written exactly when its digits are few enough. -/
theorem decimal_eq_ok_iff {n : Int} {s : Text} :
    decimal n = .ok s ↔ fits n = true ∧ s = ofInt n := by
  by_cases h : fits n = true <;> simp [decimal, h, eq_comm]

end DiceRoll.Text
