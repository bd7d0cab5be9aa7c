import DiceRoll.Formula.Parse
import DiceRoll.Formula.Repetition
import DiceRoll.Roll.Result

/-!
# Rolling formulas and expressions

A formula is rolled set by set. An expression is read once and its formula rolled as often as it
says.
-/

namespace DiceRoll

namespace Formula

/-- Rolls every set of a formula, in order. -/
def rollSets (formula : Formula) (ceiling : Int) : Roll (List Selection) :=
  formula.sets.mapM fun set => set.roll ceiling

/-- Rolls a formula. -/
def roll (formula : Formula) (ceiling : Int) : Roll Result := do
  let selections ← formula.rollSets ceiling
  return Result.tally (formula.sets.zip selections) formula.modifiers

end Formula

namespace Roll

/-- Reads a formula and tells of it. -/
def parse (written : Text) : Roll Formula := do
  let formula ← ofRead (Formula.parse written)
  tell (.parsed written formula)
  return formula

/-- Reads a formula and rolls it once. -/
def formula (written : Text) (ceiling : Int) : Roll Result := do
  let formula ← parse written
  formula.roll ceiling

/-- Reads an expression, which is a formula with or without a repetition count, and rolls its
formula as often as it says. A count below one rolls nothing. -/
def expression (written : Text) (ceiling : Int) : Roll (List Result) := do
  let repetition ← ofRead (Repetition.read written)
  let formula ← parse repetition.formula
  (formula.roll ceiling).times repetition.times.toNat

end Roll

end DiceRoll
