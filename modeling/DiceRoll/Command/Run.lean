import DiceRoll.Command.Platform
import DiceRoll.Main.Arguments
import DiceRoll.Main.Generator
import DiceRoll.Main.Markup
import DiceRoll.Main.Settings

/-!
# Running the command

The command on the platform that comes with it.
-/

namespace DiceRoll.Command

/-- The platform whose parts stand in for libraries. -/
def Platform.own : Platform where
  reader := .own
  evaluator := .own
  console := .own

/-- Runs the command. -/
def run (arguments : List Text) (sources : Settings.Sources) (generator : Option Int → Source) :
    Report :=
  Platform.own.run arguments sources generator

/-- Runs the command on a generator of its own, which starts from the fresh seed if none is set. -/
def runSeeded (fresh : Int) (arguments : List Text) (sources : Settings.Sources) : Report :=
  run arguments sources fun seed => Source.ofSeed (seed.getD fresh)

end DiceRoll.Command
