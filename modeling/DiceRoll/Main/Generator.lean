import DiceRoll.Roll.Source

/-!
# A generator

The command takes its draws from whatever source a generator makes of a seed, and no result depends
on which generator that is. The one here is linear congruential and stands in for the generator of
a standard library. So a seed gives the same rolls again and again, but not the rolls that another
generator gives for it.
-/

namespace DiceRoll.Source

/-- One step of the linear congruential generator on 64-bit words. -/
def congruentialStep (state : UInt64) : UInt64 :=
  state * 6364136223846793005 + 1442695040888963407

/-- The source that draws at most `limit` times from the generator in the given state. A draw
takes the upper 31 bits of the next state, modulo the width of the range. -/
def congruential (state : UInt64) : (limit : Nat) → Source
  | 0 => spent
  | limit + 1 =>
    let next := congruentialStep state
    ready (fun lo hi => lo + Int.fmod (next >>> 33).toNat (hi - lo + 1))
      fun _ _ => congruential next limit

/-- The number of draws after which the generator repeats itself. -/
def period : Nat := 0x10000000000000000

/-- The source that a seed starts. -/
def ofSeed (seed : Int) : Source :=
  congruential (UInt64.ofInt seed) period

end DiceRoll.Source
