import DiceRoll.Main.Settings
import DiceRoll.Settings.Memory

/-!
# The accessor of the program

The settings accessor with the evaluator that comes with the program.
-/

namespace DiceRoll.Settings

/-- The answers to a sequence of accesses. -/
def answers (memory : Memory) (accesses : List Access) : List Answer :=
  Evaluator.own.answers memory accesses

end DiceRoll.Settings
