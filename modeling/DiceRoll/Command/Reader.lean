import DiceRoll.Text.Basic

/-!
# Reading arguments

The command declares two options, a seed and a wish for all messages, and has its arguments taken
apart by a reader, which is not part of it. Options that the reader does not know are to be ignored:
they are expressions, which may well begin with a dash. What that means is said here for one
argument at a time.
-/

namespace DiceRoll

/-- What arguments ask for. -/
structure Arguments where
  /-- The expressions in written order. -/
  expressions : List Text := []
  seed : Option Int := none
  verbose : Bool := false
deriving DecidableEq, Repr

/-- What is asked for when an expression stands in front of the arguments. -/
def Arguments.cons (expression : Text) (arguments : Arguments) : Arguments :=
  { arguments with expressions := expression :: arguments.expressions }

namespace Command

/-- What may follow two dashes as the name of an option: the two options of the command, and the
wish for help that every reader knows. -/
def optionNames : List Text :=
  ["seed", "verbose", "help"].map String.toList

/-- The letters that may follow a single dash for an option. -/
def optionLetters : List Char :=
  ['s', 'v']

/-- What the command uses of a reader of arguments. -/
structure Reader where
  /-- What the arguments ask for, or the exit code if they end the command. -/
  read : List Text → Except Nat Arguments

namespace Reader

variable (reader : Reader)

/-- An argument is an expression as it stands, whatever follows it. -/
def TakesAsExpression (argument : Text) : Prop :=
  ∀ rest, reader.read (argument :: rest) = (reader.read rest).map (Arguments.cons argument)

/-- What is no option, or an unknown one, is an expression. -/
structure IgnoresUnknown : Prop where
  /-- No arguments ask for nothing. -/
  nothing : reader.read [] = .ok {}
  /-- An argument that does not begin with a dash is no option. -/
  plain : ∀ argument, argument.head? ≠ some '-' → reader.TakesAsExpression argument
  /-- What follows two dashes is a name up to an equals sign, and two dashes alone are no option but
  a separator. -/
  name : ∀ name, name ≠ [] → name.takeWhile (· ≠ '=') ∉ optionNames →
    reader.TakesAsExpression ('-' :: '-' :: name)
  /-- What follows a single dash is read letter by letter, and the letters that are not known stay
  together. -/
  letters : ∀ letters, letters.head? ≠ some '-' → (∀ letter ∈ letters, letter ∉ optionLetters) →
    reader.TakesAsExpression ('-' :: letters)

end Reader

end Command

end DiceRoll
