import DiceRoll.Roll.DieSet
import DiceRoll.Text.Basic

/-!
# Settings

What the user may set, under which names, and how texts that do not fit are reported.
-/

namespace DiceRoll

/-- What the user may set. -/
structure Settings where
  /-- The greatest number of dice rolled for one set. -/
  maxDicePerSet : Int := DieSet.defaultCeiling
  /-- The seed of the generator; without one each session rolls afresh. -/
  seed : Option Int := none
  /-- Whether all messages are logged. -/
  debug : Bool := false
deriving DecidableEq, Repr

namespace Settings

/-- The settings by name. -/
inductive Field where
  | debug
  | maxDicePerSet
  | seed
deriving DecidableEq, Repr

/-- The name of a setting in reports. -/
def Field.name : Field → Text
  | .debug => "debug".toList
  | .maxDicePerSet => "max_dice_per_set".toList
  | .seed => "seed".toList

/-- The name of the variable that holds a setting, in lower case. -/
def Field.key (field : Field) : Text :=
  "diceline_".toList ++ field.name

/-- Why the text of a setting does not fit. -/
inductive Misfit where
  | integer
  | integerTooLong
  | boolean
deriving DecidableEq, Repr

/-- The word for a misfit. -/
def Misfit.word : Misfit → Text
  | .integer => "int_parsing".toList
  | .integerTooLong => "int_parsing_size".toList
  | .boolean => "bool_parsing".toList

/-- A setting whose text does not fit. -/
structure Complaint where
  field : Field
  misfit : Misfit
deriving DecidableEq, Repr

/-- The wording of a complaint. -/
def Complaint.message (complaint : Complaint) : Text :=
  complaint.field.name ++ ": ".toList ++ complaint.misfit.word

/-- The wording of all complaints about one attempt. -/
def complaintsMessage (complaints : List Complaint) : Text :=
  "; ".toList.intercalate (complaints.map Complaint.message)

/-- What evaluating the settings gives. -/
abbrev Answer := Except (List Complaint) Settings

end Settings

end DiceRoll
