import DiceRoll.Roll.Basic

/-!
# Rolling a die set

A set is rolled by drawing faces until as many of them have stopped as there are dice to roll. A
rerolled face and an exploding one do not stop, so each die goes on until its own last face. A set
that could never finish is refused before the first draw.
-/

namespace DiceRoll.DieSet

/-- The greatest number of dice rolled for one set, unless another ceiling is given. -/
def defaultCeiling : Int := 150000

/-- The number of dice to roll under a ceiling. -/
def diceUnder (set : DieSet) (ceiling : Int) : Nat :=
  min set.count ceiling.toNat

/-- Draws the faces of a number of dice. -/
def drawFaces (set : DieSet) (dice : Nat) : Roll (List Int) := fun source =>
  let reading := source.read 1 set.size set.stops dice
  { outcome := if reading.complete then .ok reading.draws else .error .exhausted
    source := reading.rest
    events := reading.draws.map (Event.drawn 1 set.size) }

/-- Tells that more dice are asked for than a ceiling allows, if so. -/
def tellCapped (set : DieSet) (ceiling : Int) : Roll Unit :=
  if ceiling < set.count then Roll.tell (.capped ceiling set.count set.size) else pure ()

/-- Rolls a set and applies its drop rule. -/
def roll (set : DieSet) (ceiling : Int) : Roll Selection :=
  match set.endless? with
  | some cause => Roll.fail (.endless set cause)
  | none => do
    set.tellCapped ceiling
    let faces ← set.drawFaces (set.diceUnder ceiling)
    let selection := Selection.ofDrop set.drop (set.values faces)
    Roll.tell (.rolled set selection)
    return selection

end DiceRoll.DieSet
