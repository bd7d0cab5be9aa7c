import DiceRoll.Fault
import DiceRoll.Text.Lower

/-!
# Repetitions

A formula may be followed by the letter x and the number of times it is to be rolled.
-/

namespace DiceRoll

/-- A written formula and how often it is to be rolled. -/
structure Repetition where
  /-- The formula in lower case, without its repetition count. -/
  formula : Text
  /-- The repetition count; less than one means never. -/
  times : Int
deriving DecidableEq, Repr

/-- Splits an expression at its first letter x; without one the formula is to be rolled once. -/
def Repetition.read (expression : Text) : Except Malformed Repetition :=
  match (Text.lower expression).span (· ≠ 'x') with
  | (formula, []) => .ok ⟨formula, 1⟩
  | (formula, _ :: count) =>
    match Text.literal? count with
    | some times => .ok ⟨formula, times⟩
    | none => .error ⟨count⟩

end DiceRoll
