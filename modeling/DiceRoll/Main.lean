import DiceRoll.Command.Run

/-!
# The program

Takes expressions and options from the command line, and settings from the environment and from the
file of assignments in the working directory. Results go to standard output, and messages to
standard error. Options, settings, markup and generators are those of the modules below this one,
which stand in for libraries.
-/

namespace DiceRoll

/-- The file of assignments in the working directory, if it can be read. -/
def readFile : IO (Option Text) := do
  try
    let file ← IO.FS.readFile ".env"
    return some file.toList
  catch _ => return none

/-- The names of the variables that may matter: those of settings, in lower or in upper case, and
those that the file refers to. -/
def relevantNames (file : Option Text) : List String :=
  let keys := [.debug, .maxDicePerSet, .seed].map fun field =>
    String.ofList (Settings.Field.key field)
  let values := (Dotenv.entries (file.getD [])).filterMap (·.value)
  let references := values.flatMap fun value => ValuePart.names (ValuePart.ofText value)
  (keys ++ keys.map String.toUpper ++ references.map String.ofList).eraseDups

/-- The variables of the environment that may matter. -/
def readEnvironment (file : Option Text) : IO (List (Text × Text)) := do
  let found ← (relevantNames file).mapM fun name => do
    return (← IO.getEnv name).map fun value => (name.toList, value.toList)
  return found.filterMap id

/-- A seed that differs from run to run. -/
def freshSeed : IO Int := do
  let bytes ← IO.getRandomBytes 8
  return bytes.foldl (fun seed byte => seed * 256 + byte.toNat) 0

end DiceRoll

open DiceRoll in
/-- Runs the command and gives its exit code. -/
def main (arguments : List String) : IO UInt32 := do
  let file ← readFile
  let sources := { environment := ← readEnvironment file, file }
  let report := Command.runSeeded (← freshSeed) (arguments.map String.toList) sources
  for message in report.log do
    IO.eprintln (String.ofList message.text)
  IO.print (String.ofList report.output)
  if let some failure := report.failure then
    IO.eprintln (String.ofList failure.message)
  if report.exitCode = 2 || (report.generator.isNone && report.exitCode = 0) then
    IO.eprintln "Usage: [--seed N] [--verbose] [EXPRESSION]..."
  return report.exitCode.toUInt32
