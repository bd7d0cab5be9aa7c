/-!
# Dropping dice

A drop rule takes the lowest or the highest dice of a roll away. Of dice with equal values the
earlier one counts as lower. Kept and dropped values stay in roll order.
-/

namespace DiceRoll

/-- The values of a roll that count, and those that a drop rule took away. -/
structure Selection where
  kept : List Int
  dropped : List Int
deriving DecidableEq, Repr

namespace Selection

/-- Whether a die, given as value and position, ranks at most as high as another. -/
def ranksBelow (die other : Int × Nat) : Bool :=
  die.1 < other.1 || (die.1 == other.1 && die.2 ≤ other.2)

/-- The dice of a roll, each with its position, from the lowest to the highest. -/
def ranking (values : List Int) : List (Int × Nat) :=
  values.zipIdx.mergeSort ranksBelow

/-- The values of dice in roll order. -/
def inRollOrder (dice : List (Int × Nat)) : List Int :=
  (dice.mergeSort fun die other => die.2 ≤ other.2).map (·.1)

/-- Drops the `drop` lowest dice, or the highest `-drop` when negative; all if there are fewer. -/
def ofDrop (drop : Int) (values : List Int) : Selection :=
  let dice := ranking values
  if 0 ≤ drop then
    { kept := inRollOrder (dice.drop drop.toNat)
      dropped := inRollOrder (dice.take drop.toNat) }
  else
    let keep := values.length - drop.natAbs
    { kept := inRollOrder (dice.take keep)
      dropped := inRollOrder (dice.drop keep) }

@[simp] theorem length_ranking (values : List Int) : (ranking values).length = values.length := by
  simp [ranking]

@[simp] theorem length_inRollOrder (dice : List (Int × Nat)) :
    (inRollOrder dice).length = dice.length := by
  simp [inRollOrder]

/-- As many dice are dropped as the rule says, or all of them if there are fewer. -/
theorem length_dropped_ofDrop (drop : Int) (values : List Int) :
    (ofDrop drop values).dropped.length = min drop.natAbs values.length := by
  unfold ofDrop
  split
  · simp
    omega
  · simp
    omega

/-- Every die is either kept or dropped. -/
theorem length_kept_add_length_dropped (drop : Int) (values : List Int) :
    (ofDrop drop values).kept.length + (ofDrop drop values).dropped.length = values.length := by
  unfold ofDrop
  split
  · simp
    omega
  · simp

end Selection

end DiceRoll
