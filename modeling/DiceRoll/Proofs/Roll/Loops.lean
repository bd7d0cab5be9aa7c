import DiceRoll.Roll.DieSet
import DiceRoll.Proofs.Roll.Reading

/-!
# The rolling loops

Rolling a set is three loops, one inside the other: the dice one after the other, for each die the
chain of its explosions, and for each link of a chain the faces that are drawn again. Drawing until
as many faces have stopped as there are dice reads the same draws and gives the same values.
-/

namespace DiceRoll.DieSet

variable {set : DieSet}

/-- Draws again until a face comes up that is not rerolled, and gives that face and the draws left.
-/
def face? (set : DieSet) : List Int → Option (Int × List Int)
  | [] => none
  | drawn :: rest => if drawn ∈ set.rerolled then set.face? rest else some (drawn, rest)

theorem length_lt_of_face? {draws rest : List Int} {face : Int}
    (h : set.face? draws = some (face, rest)) : rest.length < draws.length := by
  induction draws with
  | nil => simp [face?] at h
  | cons drawn draws ih =>
    rw [face?] at h
    split at h
    · exact (ih h).trans (Nat.lt_succ_self _)
    · simp only [Option.some.injEq, Prod.mk.injEq] at h
      simp [h.2]

/-- Rolls one die with the dice that its explosions add. -/
def die? (set : DieSet) (draws : List Int) : Option (List Int × List Int) :=
  match _h : set.face? draws with
  | none => none
  | some (face, rest) =>
    if set.explodes face then
      (set.die? rest).map fun (values, rest) => (max face set.minimum :: values, rest)
    else some ([max face set.minimum], rest)
termination_by draws.length
decreasing_by exact length_lt_of_face? ‹_›

/-- Rolls a number of dice. -/
def dice? (set : DieSet) : Nat → List Int → Option (List Int × List Int)
  | 0, draws => some ([], draws)
  | n + 1, draws => do
    let (values, rest) ← set.die? draws
    let (others, rest) ← set.dice? n rest
    return (values ++ others, rest)

/-- A rerolled face does not matter to its die. -/
theorem die?_cons_of_mem {drawn : Int} (h : drawn ∈ set.rerolled) (draws : List Int) :
    set.die? (drawn :: draws) = set.die? draws := by
  have hface : set.face? (drawn :: draws) = set.face? draws := by simp [face?, h]
  rw [die?, die?, hface]

/-- Any other face counts, and its die goes on if it explodes. -/
theorem die?_cons_of_not_mem {drawn : Int} (h : drawn ∉ set.rerolled) (draws : List Int) :
    set.die? (drawn :: draws) =
      if set.explodes drawn then
        (set.die? draws).map fun (values, rest) => (max drawn set.minimum :: values, rest)
      else some ([max drawn set.minimum], draws) := by
  have hface : set.face? (drawn :: draws) = some (drawn, draws) := by simp [face?, h]
  rw [die?, hface]

theorem die?_nil : set.die? [] = none := by
  rw [die?]
  rfl

/-- The loops take one draw at a time: its values come first, and one die fewer is left to roll when
it stops. -/
theorem dice?_cons (n : Nat) (drawn : Int) (draws : List Int) :
    set.dice? (n + 1) (drawn :: draws) =
      (set.dice? (if set.stops drawn then n else n + 1) draws).map fun (values, rest) =>
        (set.values [drawn] ++ values, rest) := by
  by_cases hmem : drawn ∈ set.rerolled
  -- A rerolled face leaves its die where it was.
  · have hstops : set.stops drawn = false := by simp [stops, hmem]
    simp [dice?, die?_cons_of_mem hmem, hstops, values, hmem]
  · have hvalues : set.values [drawn] = [max drawn set.minimum] := by simp [values, hmem]
    rw [dice?, die?_cons_of_not_mem hmem, hvalues]
    cases hexplodes : set.explodes drawn with
    | true =>
      -- The die goes on, so the rest of it and the dice after it are what is rolled next.
      have hstops : set.stops drawn = false := by simp [stops, hexplodes]
      rcases hdie : set.die? draws with _ | ⟨values, rest⟩
      · simp [dice?, hstops, hdie]
      · rcases hdice : set.dice? n rest with _ | ⟨others, rest⟩ <;>
          simp [dice?, hstops, hdie, hdice]
    | false =>
      have hstops : set.stops drawn = true := by simp [stops, hexplodes, hmem]
      rcases hdice : set.dice? n draws with _ | ⟨others, rest⟩ <;> simp [hstops, hdice]

theorem values_cons (face : Int) (faces : List Int) :
    set.values (face :: faces) = set.values [face] ++ set.values faces := by
  simp only [values, ← List.map_append, ← List.filter_append, List.singleton_append]

/-- Reading until enough faces have stopped is running the loops. -/
theorem dice?_eq_read (n : Nat) (draws : List Int) :
    (set.dice? n draws).map (fun (values, rest) => (values, Source.ofDraws rest)) =
      let reading := (Source.ofDraws draws).read 1 set.size set.stops n
      if reading.complete then some (set.values reading.draws, reading.rest) else none := by
  induction draws generalizing n with
  | nil => cases n <;> simp [dice?, die?_nil, Source.ofDraws, values]
  | cons drawn draws ih =>
    cases n with
    | zero => simp [dice?, values]
    | succ n =>
      -- Both sides put the value of the first draw in front of what they make of the others.
      have hstep := ih (if set.stops drawn then n else n + 1)
      rw [Source.ofDraws, Source.read_ready, dice?_cons]
      dsimp only at hstep ⊢
      generalize set.dice? _ draws = dice at hstep ⊢
      generalize (Source.ofDraws draws).read 1 set.size set.stops _ = reading at hstep ⊢
      rw [values_cons drawn reading.draws]
      rcases dice with _ | ⟨values, rest⟩
      · split at hstep <;> simp_all
      · split at hstep <;> simp_all

/-- Drawing the faces of a number of dice from a list of draws gives the values that the loops give
and leaves the same draws; where the loops find no end, the draws run out. -/
theorem run_drawFaces_ofDraws (n : Nat) (draws : List Int) :
    let run := (set.values <$> set.drawFaces n).run (.ofDraws draws)
    match set.dice? n draws with
    | some (values, rest) => run.outcome = .ok values ∧ run.source = .ofDraws rest
    | none => run.outcome = .error .exhausted := by
  have hread := @dice?_eq_read set n draws
  rw [Roll.run_map]
  simp only [Roll.run, drawFaces]
  dsimp only at hread
  generalize set.dice? n draws = dice at hread ⊢
  generalize (Source.ofDraws draws).read 1 set.size set.stops n = reading at hread ⊢
  rcases dice with _ | ⟨values, rest⟩
  · split at hread <;> simp_all [Except.map]
  · split at hread <;> simp_all [Except.map]

end DiceRoll.DieSet
