import DiceRoll.Main.Dotenv
import DiceRoll.Main.Reference
import DiceRoll.Main.WholeNumber
import DiceRoll.Settings.Evaluator

/-!
# An evaluation of settings

An evaluator that stands in for a library of settings. All settings are checked together, and each
whose text does not fit is reported. It accepts the texts for integers and for truth values that
such a library was seen to accept, and replaces references in the values of a file.
-/

namespace DiceRoll.Settings

/-- Gives a name a text: at its place if it has come up before, and at the end otherwise. -/
def Table.put (name : Text) (value : Option Text) : Table → Table
  | [] => [(name, value)]
  | (other, old) :: rest =>
    if other = name then (name, value) :: rest else (other, old) :: Table.put name value rest

/-- What a variable holds for references to it: what the table has for it, be it nothing, or else
what the environment has. -/
def Table.held? (table : Table) (environment : List (Text × Text)) (name : Text) : Option Text :=
  match table.lookup name with
  | some value => some (value.getD [])
  | none => environment.lookup name

/-- The table of a file of assignments in an environment. A later assignment to the same name
replaces the text. References in a value see the assignments before it and the environment. -/
def Table.ofFile (environment : List (Text × Text)) (file : Text) : Table :=
  (Dotenv.entries file).foldl (fun table entry =>
    table.put entry.name (entry.value.map (ValuePart.expand (table.held? environment)))) []

/-- The integer that a text stands for. -/
def readInteger (s : Text) : Except Misfit Int :=
  match Text.wholeNumber s with
  | .ok n => .ok n
  | .error .malformed => .error .integer
  | .error .tooLong => .error .integerTooLong

/-- The words for true. -/
def trueWords : List Text :=
  ["1", "true", "t", "yes", "y", "on"].map String.toList

/-- The words for false. -/
def falseWords : List Text :=
  ["0", "false", "f", "no", "n", "off"].map String.toList

/-- The truth value that a text stands for, whatever the case of its ASCII letters. -/
def readBoolean (s : Text) : Except Misfit Bool :=
  let word := s.map Char.toLower
  if word ∈ trueWords then .ok true
  else if word ∈ falseWords then .ok false
  else .error .boolean

/-- The value of a setting from its text, if it has one, or its default. -/
def valueOr {α : Type} (default : α) (read : Text → Except Misfit α) :
    Option Text → Except Misfit α
  | none => .ok default
  | some text => read text

/-- The complaint about a setting, if its value could not be had. -/
def complaint? {α : Type} (field : Field) : Except Misfit α → Option Complaint
  | .ok _ => none
  | .error misfit => some ⟨field, misfit⟩

/-- Reads the settings from their texts, or complains about every setting whose text does not fit.
-/
def read (text? : Field → Option Text) : Answer :=
  let debug := valueOr false readBoolean (text? .debug)
  let maxDicePerSet := valueOr DieSet.defaultCeiling readInteger (text? .maxDicePerSet)
  let seed := valueOr none (fun text => some <$> readInteger text) (text? .seed)
  match debug, maxDicePerSet, seed with
  | .ok debug, .ok maxDicePerSet, .ok seed => .ok { debug, maxDicePerSet, seed }
  | _, _, _ =>
    .error ([complaint? .debug debug, complaint? .maxDicePerSet maxDicePerSet,
      complaint? .seed seed].filterMap id)

/-- The evaluator that reads the deciding texts. -/
def Evaluator.own : Evaluator where
  entries := Table.ofFile
  evaluate sources := read (sources.text? Table.ofFile)

end DiceRoll.Settings
