import DiceRoll.Text.Lower

/-!
# Tokens

A formula is written as tokens between signs. A sign that follows another sign, or opens the text,
replaces the sign of the token to come. A sign right after the letter d belongs to the token, so
that a drop count can be negative. The last token may be empty.
-/

namespace DiceRoll

/-- The sign in front of a token. -/
inductive Sign where
  | plus
  | minus
deriving DecidableEq, Repr

namespace Sign

/-- The sign that a character stands for. -/
def ofChar? : Char → Option Sign
  | '+' => some .plus
  | '-' => some .minus
  | _ => none

/-- The character that stands for a sign. -/
def toChar : Sign → Char
  | .plus => '+'
  | .minus => '-'

/-- A number under a sign. -/
def apply : Sign → Int → Int
  | .plus, n => n
  | .minus, n => -n

@[simp] theorem ofChar?_toChar (sign : Sign) : ofChar? sign.toChar = some sign := by
  cases sign <;> rfl

end Sign

/-- A piece of a written formula with the sign in front of it. -/
structure Token where
  sign : Sign
  text : Text
deriving DecidableEq, Repr

namespace Token

/-- The tokens of a text that continues an open token: `sign` stands in front of it, and
`buffer` holds its characters so far, the last one first. -/
def scan (sign : Sign) (buffer : Text) : Text → List Token
  | [] => [⟨sign, buffer.reverse⟩]
  | c :: rest =>
    match Sign.ofChar? c with
    | none => scan sign (c :: buffer) rest
    | some next =>
      match buffer with
      | [] => scan next [] rest
      | last :: _ =>
        if last = 'd' then scan sign (c :: buffer) rest
        else ⟨sign, buffer.reverse⟩ :: scan next [] rest

/-- The tokens of a text, in lower case. -/
def ofText (s : Text) : List Token :=
  scan .plus [] (Text.lower s)

theorem scan_ne_nil (sign : Sign) (buffer s : Text) : scan sign buffer s ≠ [] := by
  fun_induction scan sign buffer s <;> simp_all

/-- Every text has a token. -/
theorem ofText_ne_nil (s : Text) : ofText s ≠ [] :=
  scan_ne_nil _ _ _

end Token

end DiceRoll
