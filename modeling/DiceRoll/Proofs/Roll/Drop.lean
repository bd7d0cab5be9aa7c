import DiceRoll.Roll.Drop
import Mathlib

/-!
# What dropping dice leaves

The dice that are kept and those that are dropped are together the dice of the roll.
-/

namespace DiceRoll.Selection

/-- Roll order only rearranges dice. -/
theorem inRollOrder_perm (dice : List (Int × Nat)) :
    (inRollOrder dice).Perm (dice.map (·.1)) :=
  (List.mergeSort_perm _ _).map _

/-- Ranking only rearranges dice. -/
theorem ranking_perm (values : List Int) : ((ranking values).map (·.1)).Perm values := by
  simpa [ranking] using (List.mergeSort_perm values.zipIdx ranksBelow).map Prod.fst

/-- The kept and the dropped values are those of the roll. -/
theorem kept_append_dropped_perm (drop : Int) (values : List Int) :
    ((ofDrop drop values).kept ++ (ofDrop drop values).dropped).Perm values := by
  have hsplit (n : Nat) : (inRollOrder ((ranking values).take n) ++
      inRollOrder ((ranking values).drop n)).Perm values := by
    refine ((inRollOrder_perm _).append (inRollOrder_perm _)).trans ?_
    rw [← List.map_append, List.take_append_drop]
    exact ranking_perm values
  unfold ofDrop
  split
  · exact List.perm_append_comm.trans (hsplit _)
  · exact hsplit _

end DiceRoll.Selection
