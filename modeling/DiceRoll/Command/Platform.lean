import DiceRoll.Command.Batch
import DiceRoll.Settings.Evaluator

/-!
# The command on a platform

The command reads its arguments, evaluates its settings and prints through libraries. Together they
are the platform that it runs on.
-/

namespace DiceRoll.Command

/-- What the command runs on. -/
structure Platform where
  reader : Reader
  evaluator : Settings.Evaluator
  console : Console

/-- Runs the command. Faulty arguments come first and faulty settings second. -/
def Platform.run (platform : Platform) (arguments : List Text) (sources : Settings.Sources)
    (generator : Option Int → Source) : Report :=
  match platform.reader.read arguments with
  | .error exitCode => { exitCode }
  | .ok arguments =>
    match platform.evaluator.evaluate sources with
    | .error complaints => { exitCode := 1, halt := some (.failure (.settings complaints)) }
    | .ok settings => runWith platform.console arguments settings generator

end DiceRoll.Command
