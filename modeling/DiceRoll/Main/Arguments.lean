import DiceRoll.Command.Reader
import DiceRoll.Main.WholeNumber

/-!
# A reader of arguments

A reader that stands in for a library of command-line options, and accepts the seeds that such a
library was seen to accept. An argument that begins with one dash is read letter by letter; letters
that name no option are together an expression of their own. An unknown name after two dashes is an
expression as it stands. After the separator of two dashes all are expressions.
-/

namespace DiceRoll

/-- Why the arguments make no command. -/
inductive UsageFault where
  /-- The seed option stands last, without a value. -/
  | missingSeed
  /-- The value of the seed option is no integer. -/
  | badSeed (value : Text)
  /-- The option takes no value, and was given one. -/
  | unwantedValue (value : Text)
  /-- The arguments ask for help instead. -/
  | help
deriving DecidableEq, Repr

/-- The seed option within one argument. -/
inductive SeedOption where
  /-- The argument has no seed option. -/
  | absent
  /-- The value is part of the argument. -/
  | given (value : Text)
  /-- The value is the next argument. -/
  | next
deriving DecidableEq, Repr

/-- One argument taken apart. -/
structure Argument where
  expression : Option Text := none
  verbose : Bool := false
  help : Bool := false
  seed : SeedOption := .absent
deriving DecidableEq, Repr

namespace Argument

/-- The letters after a single dash taken apart. -/
structure Letters where
  /-- The letters that name no option, in order. -/
  unknown : Text := []
  verbose : Bool := false
  seed : SeedOption := .absent
deriving DecidableEq, Repr

/-- Reads letters until the seed option takes what is left, or the next argument at the end. -/
def Letters.read : Text → Letters
  | [] => {}
  | 's' :: [] => { seed := .next }
  | 's' :: value => { seed := .given value }
  | 'v' :: rest => { Letters.read rest with verbose := true }
  | c :: rest =>
    let letters := Letters.read rest
    { letters with unknown := c :: letters.unknown }

/-- The argument that letters after a dash make up. -/
def ofLetters (letters : Letters) : Argument where
  expression := if letters.unknown.isEmpty then none else some ('-' :: letters.unknown)
  verbose := letters.verbose
  seed := letters.seed

/-- A name after two dashes, split at its first equals sign. -/
def splitValue (s : Text) : Text × Option Text :=
  match s.span (· ≠ '=') with
  | (name, []) => (name, none)
  | (name, _ :: value) => (name, some value)

/-- The argument that an option without a value makes up. -/
def withoutValue (argument : Argument) : Option Text → Except UsageFault Argument
  | some value => .error (.unwantedValue value)
  | none => .ok argument

/-- Takes one argument apart. -/
def read (s : Text) : Except UsageFault Argument :=
  match s with
  | '-' :: '-' :: long =>
    let (name, value) := splitValue long
    if name = "seed".toList then
      .ok { seed := match value with
        | some value => .given value
        | none => .next }
    else if name = "verbose".toList then withoutValue { verbose := true } value
    else if name = "help".toList then withoutValue { help := true } value
    else .ok { expression := some s }
  | '-' :: first :: rest => .ok (ofLetters (Letters.read (first :: rest)))
  | _ => .ok { expression := some s }

end Argument

namespace Arguments

/-- The arguments gathered, with the value of the last seed option as it was written. -/
structure Gathered where
  expressions : List Text := []
  seed : Option Text := none
  verbose : Bool := false
  help : Bool := false
deriving DecidableEq, Repr

/-- Puts one argument, with the seed value found for it, in front of those that follow it. -/
def Gathered.cons (argument : Argument) (seed : Option Text) (rest : Gathered) : Gathered where
  expressions := argument.expression.toList ++ rest.expressions
  seed := rest.seed.or seed
  verbose := argument.verbose || rest.verbose
  help := argument.help || rest.help

/-- Gathers the arguments. A seed option that stands for the next argument takes it, whatever it
looks like. -/
def gather : List Text → Except UsageFault Gathered
  | [] => .ok {}
  | first :: rest =>
    if first = ['-', '-'] then .ok { expressions := rest }
    else
      match Argument.read first with
      | .error fault => .error fault
      | .ok argument =>
        match argument.seed with
        | .absent => (gather rest).map (Gathered.cons argument none)
        | .given value => (gather rest).map (Gathered.cons argument (some value))
        | .next =>
          match rest with
          | [] => .error .missingSeed
          | value :: rest => (gather rest).map (Gathered.cons argument (some value))

/-- The seed that the value of an option stands for. -/
def readSeed (value : Text) : Except UsageFault Int :=
  match Text.wholeNumber value with
  | .ok seed => .ok seed
  | .error _ => .error (.badSeed value)

/-- What gathered arguments ask for. Of several seeds the last one counts, and only its value has
to be an integer. A wish for help goes before it. -/
def ofGathered (gathered : Gathered) : Except UsageFault Arguments := do
  if gathered.help then throw .help
  let seed ← gathered.seed.mapM readSeed
  return { expressions := gathered.expressions, seed, verbose := gathered.verbose }

/-- Reads the arguments of a command. -/
def read (arguments : List Text) : Except UsageFault Arguments :=
  gather arguments >>= ofGathered

end Arguments

/-- The exit code of arguments that make no command. -/
def UsageFault.exitCode : UsageFault → Nat
  | .help => 0
  | _ => 2

/-- The reader that takes arguments apart one by one. -/
def Command.Reader.own : Reader where
  read arguments := (Arguments.read arguments).mapError UsageFault.exitCode

end DiceRoll
