import DiceRoll.DieSet
import DiceRoll.Text.Numeral

/-!
# Faults

What can go wrong between a written formula and its result, and how each fault is worded.
-/

namespace DiceRoll

/-- A part of a formula that cannot be read. -/
structure Malformed where
  /-- The part as it was given. -/
  token : Text
deriving DecidableEq, Repr

/-- The wording of the complaint about an unreadable part. -/
def Malformed.message (fault : Malformed) : Text :=
  "Instruction [".toList ++ fault.token ++ "] was not formatted correctly".toList

/-- The wording of the reason why a set never finishes. -/
def DieSet.Endless.message : DieSet.Endless → Text
  | .rerollsEveryFace => "rerolls every face".toList
  | .explodesOnEveryRoll => "explodes on every roll".toList

/-- Why rolling gave no result. -/
inductive Fault where
  /-- A part of the formula cannot be read. -/
  | malformed (fault : Malformed)
  /-- A die set could never finish rolling. -/
  | endless (set : DieSet) (cause : DieSet.Endless)
  /-- The source of randomness has no draw left. -/
  | exhausted
  /-- A number to be told of is too long to be written. -/
  | tooLong
deriving DecidableEq, Repr

/-- The wording of a fault. -/
def Fault.message : Fault → Text
  | .malformed fault => fault.message
  | .endless set cause => 'd' :: Text.ofInt set.size ++ ' ' :: cause.message
  | .exhausted => "no draw left".toList
  | .tooLong => Text.TooLong.message

end DiceRoll
