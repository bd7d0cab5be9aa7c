import DiceRoll.Roll.Source
import Mathlib

/-!
# Readings one draw at a time

A reading collects its draws in an accumulator. Here its first draw is split off, which is the step
that inductions over sources and over lists of draws take.
-/

namespace DiceRoll.Source

variable {lo hi : Int} {stops : Int → Bool}

/-- The numbers seen before a reading stand in front of those that it draws. -/
theorem readFrom_eq (source : Source) (n : Nat) (seen : List Int) :
    readFrom lo hi stops source n seen =
      { read lo hi stops source n with
        draws := seen.reverse ++ (read lo hi stops source n).draws } := by
  unfold read
  induction source generalizing n seen with
  | spent => cases n <;> simp [readFrom]
  | ready answer rest ih =>
    cases n with
    | zero => simp [readFrom]
    | succ n =>
      simp only [readFrom]
      rw [ih, ih lo hi _ [answer lo hi]]
      simp

@[simp] theorem read_spent (n : Nat) : read lo hi stops spent (n + 1) = ⟨[], spent, false⟩ := rfl

/-- A reading draws one number and goes on with what the source left, for one number fewer if that
one stops. -/
theorem read_ready (answer : Int → Int → Int) (rest : Int → Int → Source) (n : Nat) :
    read lo hi stops (ready answer rest) (n + 1) =
      let reading := read lo hi stops (rest lo hi) (if stops (answer lo hi) then n else n + 1)
      { reading with draws := answer lo hi :: reading.draws } := by
  conv_lhs => rw [read, readFrom]
  rw [readFrom_eq]
  rfl

/-- A reading of listed draws comes to its end when enough of them stop. -/
theorem complete_read_ofDraws (n : Nat) (draws : List Int) :
    (read lo hi stops (ofDraws draws) n).complete = true ↔ n ≤ draws.countP stops := by
  induction draws generalizing n with
  | nil => cases n <;> simp [ofDraws]
  | cons drawn draws ih =>
    cases n with
    | zero => simp
    | succ n =>
      rw [ofDraws, read_ready]
      by_cases hstop : stops drawn = true
      · simp [hstop, ih]
      · simp [hstop, ih]

/-- A reading of one number that stops takes it as often as it is asked for, and leaves the rest. -/
theorem read_ofDraws_replicate {face : Int} (h : stops face = true) (n : Nat) (rest : List Int) :
    read lo hi stops (ofDraws (List.replicate n face ++ rest)) n =
      ⟨List.replicate n face, ofDraws rest, true⟩ := by
  induction n with
  | zero => simp
  | succ n ih =>
    rw [List.replicate_succ, List.cons_append, ofDraws, read_ready, if_pos h, ih]

end DiceRoll.Source
