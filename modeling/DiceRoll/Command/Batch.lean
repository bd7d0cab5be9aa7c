import DiceRoll.Command.Console
import DiceRoll.Command.Reader
import DiceRoll.Report.Line
import DiceRoll.Report.Log
import DiceRoll.Roll.Formula
import DiceRoll.Settings.Basic

/-!
# Rolling a batch

The command rolls each expression and prints one line for each result. An expression that cannot be
read or could never finish is reported on a line of its own, and the others are rolled all the
same. A source that runs out, a number too long to be written, or a line that the output cannot
take ends the command at once.
-/

namespace DiceRoll.Command

/-- What may be wrong with the settings and the numbers of a run. -/
inductive Failure where
  /-- The settings do not fit. -/
  | settings (complaints : List Settings.Complaint)
  /-- The source of randomness ran out. -/
  | exhausted
  /-- A roll or its result has a number that is too long to be written. -/
  | tooLong
deriving DecidableEq, Repr

/-- Why the command stopped before its end. -/
inductive Halt where
  | failure (failure : Failure)
  /-- The output could not take what was to be printed. -/
  | unprintable
deriving DecidableEq, Repr

/-- How the work on expressions ended. -/
inductive Ending where
  /-- Everything was rolled. -/
  | done
  /-- Something was reported and passed over. -/
  | reported
  /-- The command cannot go on. -/
  | stopped (halt : Halt)
deriving DecidableEq, Repr

/-- The ending of work followed by more work. -/
def Ending.then : Ending → Ending → Ending
  | .stopped halt, _ => .stopped halt
  | .done, rest => rest
  | .reported, .done => .reported
  | .reported, rest => rest

/-- What work on expressions printed and left behind. -/
structure Block where
  /-- The lines printed. -/
  lines : List Text
  events : List Event
  /-- What is left of the source. -/
  source : Source
  ending : Ending

/-- An expression with what is wrong with it. -/
def complaint (expression : Text) (fault : Fault) : Text :=
  expression ++ ": ".toList ++ fault.message

section

variable (console : Console)

/-- The lines of results as they are shown, up to the first that cannot be written or printed, and
whether there is such a one. -/
def printLines : List Result → List Text × Ending
  | [] => ([], .done)
  | result :: rest =>
    match result.line with
    | .error _ => ([], .stopped (.failure .tooLong))
    | .ok line =>
      match console.showResult line result.style with
      | none => ([], .stopped .unprintable)
      | some shown =>
        let (lines, ending) := printLines rest
        (shown :: lines, ending)

/-- Rolls one expression and prints its results once all of them are rolled. -/
def rollOne (ceiling : Int) (expression : Text) (source : Source) : Block :=
  match (Roll.expression expression ceiling).run source with
  | ⟨.ok results, source, events⟩ =>
    let (lines, ending) := printLines console results
    { lines, events, source, ending }
  | ⟨.error .exhausted, source, events⟩ =>
    { lines := [], events, source, ending := .stopped (.failure .exhausted) }
  | ⟨.error .tooLong, source, events⟩ =>
    { lines := [], events, source, ending := .stopped (.failure .tooLong) }
  | ⟨.error fault, source, events⟩ =>
    let events := events ++ [.skipped expression fault]
    match console.showError (complaint expression fault) with
    | some shown => { lines := [shown], events, source, ending := .reported }
    | none => { lines := [], events, source, ending := .stopped .unprintable }

/-- Rolls expressions in order, until one of them stops the command. -/
def rollAll (ceiling : Int) : List Text → Source → Block
  | [], source => { lines := [], events := [], source, ending := .done }
  | first :: rest, source =>
    let block := rollOne console ceiling first source
    match block.ending with
    | .stopped _ => block
    | ending =>
      let others := rollAll ceiling rest block.source
      { lines := block.lines ++ others.lines
        events := block.events ++ others.events
        source := others.source
        ending := ending.then others.ending }

end

/-- What a run of the command shows. -/
structure Report where
  exitCode : Nat
  /-- The lines of standard output. -/
  lines : List Text := []
  /-- The seed that the generator was made with, if one was made; it may have none. -/
  generator : Option (Option Int) := none
  /-- What happened, in order. -/
  events : List Event := []
  /-- Whether messages below warnings are logged. -/
  verbose : Bool := false
  /-- Why the command stopped before its end, if it did. -/
  halt : Option Halt := none

/-- The exit code after an ending. -/
def Ending.exitCode : Ending → Nat
  | .done => 0
  | _ => 1

/-- The halt of an ending that is one. -/
def Ending.halt? : Ending → Option Halt
  | .stopped halt => some halt
  | _ => none

/-- The report on expressions that were rolled. -/
def Block.report (block : Block) (seed : Option Int) (verbose : Bool) : Report where
  exitCode := block.ending.exitCode
  lines := block.lines
  generator := some seed
  events := block.events
  verbose := verbose
  halt := block.ending.halt?

/-- The report on a command without expressions. -/
def missingDice (console : Console) (verbose : Bool) : Report :=
  match console.showInfo "Missing dice".toList with
  | some shown => { exitCode := 1, lines := [shown], verbose }
  | none => { exitCode := 1, verbose, halt := some .unprintable }

/-- Runs the command once its arguments and settings are known. The seed among the arguments wins
over the one in the settings, and `generator` makes the source from it. -/
def runWith (console : Console) (arguments : Arguments) (settings : Settings)
    (generator : Option Int → Source) : Report :=
  let verbose := arguments.verbose || settings.debug
  if arguments.expressions.isEmpty then missingDice console verbose
  else
    let seed := arguments.seed.or settings.seed
    let block := rollAll console settings.maxDicePerSet arguments.expressions (generator seed)
    block.report seed verbose

namespace Report

variable (report : Report)

/-- Standard output as one text. -/
def output : Text :=
  report.lines.flatMap (· ++ ['\n'])

/-- The messages logged. -/
def log : List Message :=
  Message.ofEvents report.verbose report.events

/-- The failure that stopped the command, if one did. -/
def failure : Option Failure :=
  match report.halt with
  | some (.failure failure) => some failure
  | _ => none

end Report

/-- The wording of a failure. -/
def Failure.message : Failure → Text
  | .settings complaints => Settings.complaintsMessage complaints
  | .exhausted => Fault.exhausted.message
  | .tooLong => Text.TooLong.message

end DiceRoll.Command
