import DiceRoll.Proofs.Roll.Formula
import DiceRoll.Proofs.Roll.Tally

/-!
# Joined formulas

The sets of a formula share nothing but the source. So rolling two formulas as one is rolling the
first and then, from what it leaves of the source, the second: what happens is what happens in the
one and then in the other, and the first failure ends both.
-/

namespace DiceRoll.Formula

/-- The sets of joined formulas are rolled one formula after the other. -/
theorem rollSets_append (left right : Formula) (ceiling : Int) :
    (left ++ right).rollSets ceiling = do
      let first ← left.rollSets ceiling
      let second ← right.rollSets ceiling
      return first ++ second :=
  List.mapM_append

/-- Joined formulas are rolled one after the other. When both are rolled to their ends, their
results are joined; otherwise the first one that fails ends the roll. -/
theorem run_roll_append (left right : Formula) (ceiling : Int) (source : Source) :
    match (left.roll ceiling).run source with
    | ⟨.error fault, rest, events⟩ =>
      ((left ++ right).roll ceiling).run source = ⟨.error fault, rest, events⟩
    | ⟨.ok first, middle, events⟩ =>
      match (right.roll ceiling).run middle with
      | ⟨.error fault, rest, more⟩ =>
        ((left ++ right).roll ceiling).run source = ⟨.error fault, rest, events ++ more⟩
      | ⟨.ok second, rest, more⟩ =>
        ∃ joined, ((left ++ right).roll ceiling).run source =
          ⟨.ok joined, rest, events ++ more⟩ ∧ Result.Joins first second joined := by
  simp only [roll_eq_map, rollSets_append, Roll.run_map]
  rcases hleft : (left.rollSets ceiling).run source with ⟨fault | first, middle, events⟩
  · rw [Roll.run_bind_of_error hleft]
    rfl
  · rw [Roll.run_bind_of_ok hleft]
    dsimp only [Except.map]
    rcases hright : (right.rollSets ceiling).run middle with ⟨fault | second, rest, more⟩
    · rw [Roll.run_bind_of_error hright]
    · rw [Roll.run_bind_of_ok hright, Roll.run_pure, List.append_nil]
      have hlength : first.length = left.sets.length := length_selections (by rw [hleft])
      refine ⟨_, rfl, ?_⟩
      rw [sets_append, modifiers_append, List.zip_append hlength.symm]
      exact Result.joins_tally _ _ _ _

end DiceRoll.Formula
