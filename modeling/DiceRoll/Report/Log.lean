import DiceRoll.Roll.Basic
import DiceRoll.Text.Quoted

/-!
# The log

Warnings are always logged, and the other messages only on request. Draws are not logged.
-/

namespace DiceRoll

/-- How important a message is. -/
inductive Level where
  | debug
  | warning
deriving DecidableEq, Repr

/-- The name of a level. -/
def Level.name : Level → Text
  | .debug => "DEBUG".toList
  | .warning => "WARNING".toList

/-- A logged message. -/
structure Message where
  level : Level
  text : Text
deriving DecidableEq, Repr

namespace Message

/-- Numbers with commas between them. -/
def numbers (values : List Int) : Text :=
  [',', ' '].intercalate (values.map Text.ofInt)

/-- Numbers in brackets. -/
def bracketed (values : List Int) : Text :=
  '[' :: numbers values ++ [']']

/-- Numbers in parentheses; a comma follows one that stands alone. -/
def parenthesized (values : List Int) : Text :=
  '(' :: numbers values ++ (if values.length = 1 then [',', ')'] else [')'])

/-- The message about an event, if it is worth one. -/
def ofEvent? : Event → Option Message
  | .drawn .. => none
  | .parsed written formula =>
    some ⟨.debug, "Parsed ".toList ++ Text.quoted written ++ " into ".toList ++
      Text.ofInt formula.sets.length ++ " die set(s), modifiers ".toList ++
      parenthesized formula.modifiers⟩
  | .capped ceiling count size =>
    some ⟨.warning, "Rolling only ".toList ++ Text.ofInt ceiling ++ " of ".toList ++
      Text.ofInt count ++ " requested d".toList ++ Text.ofInt size⟩
  | .rolled set selection =>
    some ⟨.debug, 'd' :: Text.ofInt set.size ++ " x".toList ++ Text.ofInt set.signedCount ++
      ": kept ".toList ++ bracketed selection.kept ++
      ", dropped ".toList ++ bracketed selection.dropped⟩
  | .skipped expression fault =>
    some ⟨.debug, "Skipping ".toList ++ Text.quoted expression ++ ": ".toList ++ fault.message⟩

/-- The messages about events, from warnings upward, or all of them when `verbose`. -/
def ofEvents (verbose : Bool) (events : List Event) : List Message :=
  (events.filterMap ofEvent?).filter fun message => verbose || message.level = .warning

end Message

end DiceRoll
