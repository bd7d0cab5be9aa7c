import DiceRoll.Roll.DieSet

/-!
# Results

The result of rolling a formula holds what each set kept and dropped, under the sign of the set,
the total of all kept values and modifiers, and whether the roll was a critical success or a fumble.
-/

namespace DiceRoll

/-- What one set contributed, in roll order and under the sign of the set. -/
structure Outcome where
  kept : List Int
  dropped : List Int := []
  negative : Bool := false
deriving DecidableEq, Repr

/-- The outcome of a selection from a set. -/
def Outcome.ofSelection (set : DieSet) (selection : Selection) : Outcome :=
  if set.isNegative then
    { kept := selection.kept.map (-·), dropped := selection.dropped.map (-·), negative := true }
  else { kept := selection.kept, dropped := selection.dropped }

/-- The result of rolling a formula. -/
structure Result where
  /-- One outcome for each set of the formula. -/
  outcomes : List Outcome := []
  modifiers : List Int := []
  total : Int := 0
  /-- Whether every kept die shows its greatest face. -/
  isCrit : Bool := false
  /-- Whether every kept die shows a one. -/
  isFumble : Bool := false
deriving DecidableEq, Repr

namespace Result

/-- How many sets dropped a die. -/
def dropCount (result : Result) : Nat :=
  result.outcomes.countP fun outcome => !outcome.dropped.isEmpty

/-- The kept values, each with the size of its die, whatever the sign of the set. -/
def keptDice (rolled : List (DieSet × Selection)) : List (Int × Int) :=
  rolled.flatMap fun (set, selection) => selection.kept.map (·, set.size)

/-- Adds up what was rolled. Dice that are all at their greatest face and all at one show neither a
critical success nor a fumble. -/
def tally (rolled : List (DieSet × Selection)) (modifiers : List Int) : Result :=
  let outcomes := rolled.map fun (set, selection) => Outcome.ofSelection set selection
  let allGreatest := (keptDice rolled).all fun (value, size) => size ≤ value
  let allOne := (keptDice rolled).all fun (value, _) => value ≤ 1
  { outcomes, modifiers
    total := (outcomes.flatMap (·.kept) ++ modifiers).foldl (· + ·) 0
    isCrit := allGreatest && !allOne
    isFumble := allOne && !allGreatest }

end Result

end DiceRoll
