import DiceRoll.Proofs.Roll.Ranking
import Mathlib

/-!
# Opposite drop rules

Dropping the lowest dice of a roll is keeping the highest others, down to the choice between dice of
equal value. Read from its end and with every value negated, a roll ranks its dice the other way
round, ties included, so there the opposite rule drops the same dice.
-/

namespace DiceRoll.Selection

variable {values : List Int} {die other : Int × Nat} {k : Int}

/-! ### Keeping instead of dropping -/

/-- What was dropped in the place of what was kept, and the other way round. -/
def swap (selection : Selection) : Selection :=
  ⟨selection.dropped, selection.kept⟩

/-- The selection drops the dice of a roll that meet a condition and keeps the others, each part in
roll order. -/
structure SplitBy (condition : Int × Nat → Bool) (values : List Int) (selection : Selection) :
    Prop where
  kept_eq : selection.kept = (values.zipIdx.filter (! condition ·)).map Prod.fst
  dropped_eq : selection.dropped = (values.zipIdx.filter condition).map Prod.fst

theorem splitBy_drops (drop : Int) (values : List Int) :
    SplitBy (drops drop values) values (ofDrop drop values) := by
  rw [ofDrop_eq]
  exact ⟨rfl, rfl⟩

theorem SplitBy.swap {condition : Int × Nat → Bool} {selection : Selection}
    (h : SplitBy condition values selection) :
    SplitBy (! condition ·) values selection.swap := by
  refine ⟨?_, h.kept_eq⟩
  simp only [Bool.not_not]
  exact h.dropped_eq

/-- The rule that drops all of the highest dice but some drops those that the rule for the others
keeps. -/
theorem drops_complement (hlo : 0 ≤ k) (hhi : k ≤ values.length) (h : die ∈ values.zipIdx) :
    drops (-(values.length - k)) values die = ! drops k values die := by
  have hranks := below_add_above h
  rw [drops, drops, if_pos hlo, ← decide_not]
  -- Where no die is left to drop, the rule is zero and counts the dice below instead.
  split
  · rw [decide_eq_decide]
    omega
  · rw [decide_eq_decide]
    omega

/-- Dropping the lowest dice is keeping the highest others. -/
theorem ofDrop_complement (hlo : 0 ≤ k) (hhi : k ≤ values.length) :
    ofDrop (-(values.length - k)) values = (ofDrop k values).swap := by
  have hdropped : ∀ die ∈ values.zipIdx,
      drops (-(values.length - k)) values die = ! drops k values die :=
    fun die hdie => drops_complement hlo hhi hdie
  have hkept : ∀ die ∈ values.zipIdx,
      (! drops (-(values.length - k)) values die) = drops k values die :=
    fun die hdie => by rw [hdropped die hdie, Bool.not_not]
  rw [ofDrop_eq, ofDrop_eq, swap, List.filter_congr hdropped, List.filter_congr hkept]

/-! ### The opposite roll -/

/-- The values of a roll from its end, each of them negated. -/
def oppositeValues (values : List Int) : List Int :=
  (values.map (-·)).reverse

/-- A die of a roll of some length, given as value and position, in the opposite roll. -/
def oppositeDie (length : Nat) (die : Int × Nat) : Int × Nat :=
  (-die.1, length - 1 - die.2)

/-- The opposites of what was kept and of what was dropped. -/
def opposite (selection : Selection) : Selection :=
  ⟨oppositeValues selection.kept, oppositeValues selection.dropped⟩

/-- The dice of an opposite roll are the opposites of the dice, from the last one to the first. -/
theorem zipIdx_oppositeValues (values : List Int) :
    (oppositeValues values).zipIdx = (values.zipIdx.map (oppositeDie values.length)).reverse := by
  apply List.ext_getElem
  · simp [oppositeValues]
  · intro i hi _
    have hlength : i < values.length := by simpa [oppositeValues] using hi
    simp only [oppositeValues, oppositeDie, List.getElem_zipIdx, List.getElem_reverse,
      List.getElem_map, List.length_map, List.length_zipIdx, Nat.zero_add, Prod.mk.injEq, true_and]
    omega

/-- What is counted among the dice of an opposite roll is counted among the opposites of dice. -/
theorem countP_zipIdx_oppositeValues (values : List Int) (p : Int × Nat → Bool) :
    (oppositeValues values).zipIdx.countP p =
      values.zipIdx.countP fun die => p (oppositeDie values.length die) := by
  rw [zipIdx_oppositeValues, List.countP_reverse, List.countP_map]
  rfl

/-- The dice picked from an opposite roll are the opposites of dice, from the last one to the first.
-/
theorem filter_zipIdx_oppositeValues (values : List Int) (p : Int × Nat → Bool) :
    ((oppositeValues values).zipIdx.filter p).map Prod.fst =
      oppositeValues
        ((values.zipIdx.filter fun die => p (oppositeDie values.length die)).map Prod.fst) := by
  rw [zipIdx_oppositeValues, List.filter_reverse, List.filter_map, oppositeValues,
    List.map_reverse, List.map_map, List.map_map]
  rfl

/-- Of two dice, the one that ranks below has the opposite that ranks above. -/
theorem oppositeDie_lt_iff (hdie : die ∈ values.zipIdx) (hother : other ∈ values.zipIdx) :
    toLex (oppositeDie values.length die) < toLex (oppositeDie values.length other) ↔
      toLex other < toLex die := by
  have hpos := List.snd_lt_of_mem_zipIdx hdie
  have hpos' := List.snd_lt_of_mem_zipIdx hother
  simp only [oppositeDie, Prod.Lex.toLex_lt_toLex]
  omega

/-- As many dice rank below the opposite of a die as rank above the die. -/
theorem below_oppositeDie (h : die ∈ values.zipIdx) :
    below (oppositeValues values) (oppositeDie values.length die) = above values die := by
  rw [below, countP_zipIdx_oppositeValues, above]
  refine List.countP_congr fun other hother => ?_
  simpa only [decide_eq_true_eq] using oppositeDie_lt_iff hother h

/-- As many dice rank above the opposite of a die as rank below the die. -/
theorem above_oppositeDie (h : die ∈ values.zipIdx) :
    above (oppositeValues values) (oppositeDie values.length die) = below values die := by
  rw [above, countP_zipIdx_oppositeValues, below]
  refine List.countP_congr fun other hother => ?_
  simpa only [decide_eq_true_eq] using oppositeDie_lt_iff h hother

/-- The opposite rule drops the opposites of the dice that a rule drops. -/
theorem drops_oppositeDie (drop : Int) (h : die ∈ values.zipIdx) :
    drops (-drop) (oppositeValues values) (oppositeDie values.length die) =
      drops drop values die := by
  unfold drops
  rw [below_oppositeDie h, above_oppositeDie h]
  rcases lt_trichotomy drop 0 with hneg | rfl | hpos
  · rw [if_pos (by omega), if_neg (by omega), Int.natAbs_neg]
  · simp
  · rw [if_neg (by omega), if_pos (by omega), Int.natAbs_neg]

/-- The opposite rule selects the opposite from the opposite roll. -/
theorem ofDrop_oppositeValues (drop : Int) (values : List Int) :
    ofDrop (-drop) (oppositeValues values) = (ofDrop drop values).opposite := by
  have hdropped : ∀ die ∈ values.zipIdx,
      drops (-drop) (oppositeValues values) (oppositeDie values.length die) =
        drops drop values die :=
    fun die hdie => drops_oppositeDie drop hdie
  have hkept : ∀ die ∈ values.zipIdx,
      (! drops (-drop) (oppositeValues values) (oppositeDie values.length die)) =
        ! drops drop values die :=
    fun die hdie => by rw [hdropped die hdie]
  rw [ofDrop_eq, ofDrop_eq, opposite, filter_zipIdx_oppositeValues, filter_zipIdx_oppositeValues,
    List.filter_congr hdropped, List.filter_congr hkept]

/-! ### Both laws -/

/-- The rule that drops as many of the highest dice as another keeps exchanges what is kept and what
is dropped, die by die. The opposite rule selects the opposite from the opposite roll, and drops the
opposites of the same dice. -/
theorem ofDrop_complement_and_opposite (hlo : 0 ≤ k) (hhi : k ≤ values.length) :
    (ofDrop (-(values.length - k)) values = (ofDrop k values).swap ∧
      SplitBy (drops k values) values (ofDrop k values) ∧
      SplitBy (! drops k values ·) values (ofDrop (-(values.length - k)) values)) ∧
    (ofDrop (-k) (oppositeValues values) = (ofDrop k values).opposite ∧
      ∀ die ∈ values.zipIdx,
        drops (-k) (oppositeValues values) (oppositeDie values.length die) =
          drops k values die) := by
  have hswap := ofDrop_complement hlo hhi
  have hsplit := splitBy_drops k values
  refine ⟨⟨hswap, hsplit, ?_⟩, ofDrop_oppositeValues k values, fun die => drops_oppositeDie k⟩
  rw [hswap]
  exact hsplit.swap

/-- Of five dice with two ones and two threes, the first one is dropped by the rule for the lowest
die and kept by the rule for the four highest, and in the opposite roll the last one is dropped. -/
theorem ofDrop_complement_of_ties :
    let values : List Int := [3, 1, 3, 2, 1]
    (0 : Int) ≤ 1 ∧ (1 : Int) ≤ values.length ∧
      ofDrop (-4) values = (ofDrop 1 values).swap ∧
      ofDrop (-1) [-1, -2, -3, -1, -3] = (ofDrop 1 values).opposite := by
  intro values
  have hlo : (0 : Int) ≤ 1 := by decide
  have hhi : (1 : Int) ≤ values.length := by decide
  have hlaws := ofDrop_complement_and_opposite hlo hhi
  exact ⟨hlo, hhi, hlaws.1.1, hlaws.2.1⟩

end DiceRoll.Selection
