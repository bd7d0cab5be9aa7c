import DiceRoll.Roll.Result
import DiceRoll.Text.Numeral

/-!
# Result lines

A result is written on one line: its total, what each set kept in brackets, the modifiers, and
what was dropped. Summands stand between plus signs, and a plus sign before a minus sign is left
out.
-/

namespace DiceRoll

/-- The text with each plus sign before a minus sign left out. -/
def Text.mergeSigns : Text → Text
  | '+' :: '-' :: rest => '-' :: mergeSigns rest
  | c :: rest => c :: mergeSigns rest
  | [] => []

namespace Result

open Text (TooLong)

/-- The absolute values of dice, joined with a separator. -/
def magnitudes (separator : Text) (values : List Int) : Except TooLong Text := do
  let texts ← values.mapM fun value => Text.decimal value.natAbs
  return separator.intercalate texts

/-- The values that a set kept, in brackets, with a minus sign when the set is subtracted. -/
def group (outcome : Outcome) : Except TooLong Text := do
  let kept ← magnitudes ['+'] outcome.kept
  return (if outcome.negative then ['-'] else []) ++ '[' :: kept ++ [']']

/-- What each set kept, followed by the modifiers, of which there is at least a zero. -/
def details (result : Result) : Except TooLong Text := do
  let groups ← result.outcomes.mapM group
  let modifiers ← (if result.modifiers.isEmpty then [0] else result.modifiers).mapM Text.decimal
  return Text.mergeSigns (['+'].intercalate (groups ++ modifiers))

/-- The values that a set dropped. -/
def droppedValues (outcome : Outcome) : Except TooLong Text :=
  magnitudes [','] outcome.dropped

/-- What was dropped: nothing, the values of the one set that dropped any, or the values of each
set in brackets. -/
def dropped (result : Result) : Except TooLong Text := do
  let values ←
    if result.dropCount ≤ 1 then
      (result.outcomes.filter fun outcome => !outcome.dropped.isEmpty).mapM droppedValues
    else
      result.outcomes.mapM fun outcome => return '[' :: (← droppedValues outcome) ++ [']']
  if values.isEmpty then return []
  return " Dropped (".toList ++ [',', ' '].intercalate values ++ [')']

/-- The line of a result. -/
def line (result : Result) : Except TooLong Text := do
  let total ← Text.decimal result.total
  let details ← result.details
  let dropped ← result.dropped
  return "Result: ".toList ++ total ++ ' ' :: details ++ dropped

/-- The style that a result is shown in; a plain result has none. -/
def style (result : Result) : Text :=
  if result.isCrit then "bold green".toList
  else if result.isFumble then "bold red".toList
  else []

end Result

end DiceRoll
