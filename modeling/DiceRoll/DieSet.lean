import DiceRoll.Faces

/-!
# Die sets

A die set is a group of dice of one size, rolled under shared rules. Nothing is assumed of its
numbers: a size or count may be zero or negative, and rolling says what then happens.
-/

namespace DiceRoll

/-- A group of dice of one size and the rules they are rolled under. -/
structure DieSet where
  /-- The number of faces of each die, which is also its greatest face. -/
  size : Int
  /-- The number of dice; a negative number subtracts the set from the total. -/
  signedCount : Int
  /-- How many of the lowest dice are dropped, or of the highest when negative. -/
  drop : Int := 0
  /-- Whether a die that shows its greatest face is followed by one more die. -/
  exploding : Bool := false
  /-- The faces that are drawn again. -/
  rerolled : Faces := ∅
  /-- The least value that a die counts for. -/
  minimum : Int := 0
deriving DecidableEq, Repr

namespace DieSet

/-- The number of dice, whatever the sign. -/
def count (set : DieSet) : Nat :=
  set.signedCount.natAbs

/-- Whether the set is subtracted from the total. -/
def isNegative (set : DieSet) : Bool :=
  set.signedCount < 0

/-- The rerolled faces that the die has. -/
def rerolledFaces (set : DieSet) : List Int :=
  set.rerolled.toList.filter fun face => 1 ≤ face && face ≤ set.size

/-- Whether the greatest face of an exploding die came up. -/
def explodes (set : DieSet) (face : Int) : Bool :=
  set.exploding && face == set.size

/-- Whether a drawn face ends the rolling of one die: it counts and does not explode. -/
def stops (set : DieSet) (face : Int) : Bool :=
  !(face ∈ set.rerolled) && !set.explodes face

/-- The values that drawn faces count for: rerolled faces count for none, and the others for at
least the minimum. -/
def values (set : DieSet) (faces : List Int) : List Int :=
  (faces.filter fun face => !(face ∈ set.rerolled)).map (max · set.minimum)

/-- Why a die set could never finish rolling. -/
inductive Endless where
  /-- Every face is drawn again. -/
  | rerollsEveryFace
  /-- The greatest face is the only one that is not drawn again, and it explodes. -/
  | explodesOnEveryRoll
deriving DecidableEq, Repr

/-- Why the set could never finish rolling, if it could not. -/
def endless? (set : DieSet) : Option Endless :=
  let rerolled : Int := set.rerolledFaces.length
  if rerolled = set.size then some .rerollsEveryFace
  else if set.exploding ∧ rerolled = set.size - 1 ∧ set.size ∉ set.rerolledFaces then
    some .explodesOnEveryRoll
  else none

end DieSet

end DiceRoll
