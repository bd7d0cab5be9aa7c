import DiceRoll.Roll.Result
import Mathlib

/-!
# What results add up

The total of a result is the sum of what each of its sets kept and of its modifiers, so results of
parts that are rolled one after the other add up to the result of the whole.
-/

namespace DiceRoll

/-- What a set contributes is what it kept, under its sign. -/
theorem Outcome.sum_kept_ofSelection (set : DieSet) (selection : Selection) :
    (ofSelection set selection).kept.sum =
      if set.isNegative then -selection.kept.sum else selection.kept.sum := by
  unfold ofSelection
  split
  · exact (List.sum_neg _).symm
  · rfl

namespace Result

/-- The total is the sum of what each set kept and of the modifiers. -/
theorem total_tally (rolled : List (DieSet × Selection)) (modifiers : List Int) :
    (tally rolled modifiers).total =
      ((tally rolled modifiers).outcomes.map (·.kept.sum)).sum + modifiers.sum := by
  simp only [tally, ← List.sum_eq_foldl, List.sum_append, List.flatMap_def, List.sum_flatten,
    List.map_map, Function.comp_def]

/-- One more set adds what it keeps to the total. -/
theorem total_tally_cons (set : DieSet) (selection : Selection) (rolled : List (DieSet × Selection))
    (modifiers : List Int) :
    (tally ((set, selection) :: rolled) modifiers).total =
      (Outcome.ofSelection set selection).kept.sum + (tally rolled modifiers).total := by
  have houtcomes : (tally ((set, selection) :: rolled) modifiers).outcomes =
      Outcome.ofSelection set selection :: (tally rolled modifiers).outcomes := rfl
  rw [total_tally, total_tally, houtcomes, List.map_cons, List.sum_cons, add_assoc]

/-- A result that holds the outcomes and modifiers of two others, and the sum of their totals. -/
structure Joins (left right joined : Result) : Prop where
  outcomes : joined.outcomes = left.outcomes ++ right.outcomes
  modifiers : joined.modifiers = left.modifiers ++ right.modifiers
  total : joined.total = left.total + right.total

/-- What is rolled together adds up to what its parts add up to. -/
theorem joins_tally (rolled more : List (DieSet × Selection)) (modifiers others : List Int) :
    Joins (tally rolled modifiers) (tally more others)
      (tally (rolled ++ more) (modifiers ++ others)) where
  outcomes := List.map_append
  modifiers := rfl
  total := by
    have houtcomes : (tally (rolled ++ more) (modifiers ++ others)).outcomes =
        (tally rolled modifiers).outcomes ++ (tally more others).outcomes := List.map_append
    rw [total_tally, total_tally, total_tally, houtcomes, List.map_append, List.sum_append,
      List.sum_append]
    exact add_add_add_comm _ _ _ _

end Result

end DiceRoll
