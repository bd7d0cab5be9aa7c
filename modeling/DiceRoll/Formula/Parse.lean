import DiceRoll.Formula.Term

/-!
# Reading formulas

A text reads as a formula when each of its tokens reads as a term; the first token that does not
is reported.
-/

namespace DiceRoll.Formula

/-- Reads a formula. -/
def parse (s : Text) : Except Malformed Formula := do
  let terms ← (Token.ofText s).mapM fun token => Term.read token.sign token.text
  return ofTerms terms

end DiceRoll.Formula
