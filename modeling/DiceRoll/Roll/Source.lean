/-!
# Sources of randomness

A source answers draws, each asking for a number in a range, until it is spent. What it answers,
and how it goes on, may depend on the range asked for. Nothing holds an answer to the range.
A source is finite, so whatever reads from it comes to an end.
-/

namespace DiceRoll

/-- A supply of draws. -/
inductive Source where
  /-- No draw is left. -/
  | spent
  /-- A draw asked for between two bounds is answered, and another source remains. -/
  | ready (answer : Int → Int → Int) (rest : Int → Int → Source)

namespace Source

instance : Inhabited Source := ⟨spent⟩

/-- The source that answers with the given numbers, whatever range is asked for. -/
def ofDraws : List Int → Source
  | [] => spent
  | first :: rest => ready (fun _ _ => first) fun _ _ => ofDraws rest

/-- What reading draws from a source gave. -/
structure Reading where
  /-- The numbers drawn, in order. -/
  draws : List Int
  /-- What is left of the source. -/
  rest : Source
  /-- Whether the reading came to its end before the source did. -/
  complete : Bool

/-- Draws between `lo` and `hi` until `n` of the numbers drawn stop; `seen` holds the numbers drawn
before, the last one first. -/
def readFrom (lo hi : Int) (stops : Int → Bool) : Source → Nat → List Int → Reading
  | source, 0, seen => ⟨seen.reverse, source, true⟩
  | spent, _ + 1, seen => ⟨seen.reverse, spent, false⟩
  | ready answer rest, n + 1, seen =>
    let drawn := answer lo hi
    readFrom lo hi stops (rest lo hi) (if stops drawn then n else n + 1) (drawn :: seen)

/-- Draws between `lo` and `hi` until `n` of the numbers drawn stop. -/
def read (lo hi : Int) (stops : Int → Bool) (source : Source) (n : Nat) : Reading :=
  readFrom lo hi stops source n []

/-- Reading on adds the numbers that stop to those seen before. -/
theorem countP_draws_readFrom {lo hi : Int} {stops : Int → Bool} {source : Source} {n : Nat}
    {seen : List Int} (h : (readFrom lo hi stops source n seen).complete = true) :
    (readFrom lo hi stops source n seen).draws.countP stops = seen.countP stops + n := by
  fun_induction readFrom lo hi stops source n seen with
  | case1 source seen => simp
  | case2 n seen => simp at h
  | case3 answer rest n seen drawn ih =>
    rw [ih h]
    by_cases hstop : stops drawn = true
    · simp only [hstop, if_true, List.countP_cons]
      omega
    · simp [hstop]

/-- A reading that comes to its end draws as many numbers that stop as it was asked for. -/
theorem countP_draws_read {lo hi : Int} {stops : Int → Bool} {source : Source} {n : Nat}
    (h : (read lo hi stops source n).complete = true) :
    (read lo hi stops source n).draws.countP stops = n := by
  simpa [read] using countP_draws_readFrom h

/-- Nothing is drawn for nothing. -/
@[simp] theorem read_zero (lo hi : Int) (stops : Int → Bool) (source : Source) :
    read lo hi stops source 0 = ⟨[], source, true⟩ := by
  cases source <;> rfl

end Source

end DiceRoll
