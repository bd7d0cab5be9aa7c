import DiceRoll.Proofs.Roll.Drop
import Mathlib

/-!
# Which dice are dropped

Dice are ranked by value, and dice of equal value by position. In a ranked list the first dice are
those that few others rank below, so a positive drop rule takes every die that fewer dice than the
rule says rank below, and a negative one every die that fewer dice rank above. Sorting dice by
position once more leaves them as they stand in the roll, so both the kept and the dropped values
are the values of the roll at some of its positions.
-/

namespace DiceRoll.Selection

/-- The first items of a sorted list are those that few items are below, and the rest are the
others. -/
theorem take_and_drop_eq_filter {α : Type} {lt : α → α → Prop} [DecidableRel lt] {items : List α}
    (hasymm : ∀ a b, lt a b → ¬ lt b a) (h : items.Pairwise lt) (n : Nat) :
    items.take n = items.filter (fun item => items.countP (lt · item) < n) ∧
      items.drop n = items.filter (fun item => ! decide (items.countP (lt · item) < n)) := by
  induction items generalizing n with
  | nil => simp
  | cons first rest ih =>
    obtain ⟨hfirst, hrest⟩ := List.pairwise_cons.mp h
    have hzero : (first :: rest).countP (lt · first) = 0 := by
      have hself : ¬ lt first first := fun hlt => hasymm first first hlt hlt
      simpa [List.countP_eq_zero, hself] using fun item hitem => hasymm _ _ (hfirst item hitem)
    have hcount : ∀ item ∈ rest,
        (first :: rest).countP (lt · item) = rest.countP (lt · item) + 1 := fun item hitem =>
      List.countP_cons_of_pos (by simpa using hfirst item hitem)
    cases n with
    | zero => simp
    | succ n =>
      rw [List.take_succ_cons, List.drop_succ_cons, List.filter_cons_of_pos (by simp [hzero]),
        List.filter_cons_of_neg (by simp [hzero]), (ih hrest n).1, (ih hrest n).2]
      refine ⟨congrArg (first :: ·) (List.filter_congr fun item hitem => ?_),
        List.filter_congr fun item hitem => ?_⟩ <;> simp [hcount item hitem]

/-! ### Ranks -/

/-- How many dice of a roll rank below a die, given as value and position. -/
def below (values : List Int) (die : Int × Nat) : Nat :=
  values.zipIdx.countP fun other => toLex other < toLex die

/-- How many dice of a roll rank above a die, given as value and position. -/
def above (values : List Int) (die : Int × Nat) : Nat :=
  values.zipIdx.countP fun other => toLex die < toLex other

variable {values : List Int} {die : Int × Nat}

theorem ranksBelow_iff {die other : Int × Nat} :
    ranksBelow die other = true ↔ toLex die ≤ toLex other := by
  simp [ranksBelow, Prod.Lex.toLex_le_toLex]

/-- The dice of a roll stand in the order of their positions. -/
theorem pairwise_zipIdx (values : List Int) :
    values.zipIdx.Pairwise fun die other => die.2 < other.2 := by
  rw [← List.pairwise_map (f := Prod.snd), List.zipIdx_map_snd]
  exact List.pairwise_lt_range' 1

theorem ranking_perm_zipIdx (values : List Int) : (ranking values).Perm values.zipIdx :=
  List.mergeSort_perm _ _

/-- A ranking is strictly ascending. -/
theorem pairwise_ranking (values : List Int) :
    (ranking values).Pairwise fun die other => toLex die < toLex other := by
  have hsorted : (ranking values).Pairwise fun die other => toLex die ≤ toLex other := by
    have hmerge := @List.pairwise_mergeSort _ ranksBelow
      (fun a b c hab hbc => ranksBelow_iff.mpr
        ((ranksBelow_iff.mp hab).trans (ranksBelow_iff.mp hbc)))
      (fun a b => by simpa [ranksBelow_iff] using le_total (toLex a) (toLex b)) values.zipIdx
    exact hmerge.imp ranksBelow_iff.mp
  have hnodup : (ranking values).Nodup :=
    (ranking_perm_zipIdx values).symm.nodup
      ((pairwise_zipIdx values).imp fun hlt heq => by simp [heq] at hlt)
  exact (hsorted.and hnodup).imp fun ⟨hle, hne⟩ => lt_of_le_of_ne hle fun heq => hne heq

theorem countP_ranking (values : List Int) (p : Int × Nat → Bool) :
    (ranking values).countP p = values.zipIdx.countP p :=
  (ranking_perm_zipIdx values).countP_eq p

/-- The lowest dice of a roll are those that few dice rank below. -/
theorem take_and_drop_ranking (values : List Int) (n : Nat) :
    (ranking values).take n = (ranking values).filter (fun die => below values die < n) ∧
      (ranking values).drop n =
        (ranking values).filter (fun die => ! decide (below values die < n)) := by
  have hbelow (die : Int × Nat) :
      (ranking values).countP (fun other => toLex other < toLex die) = below values die :=
    countP_ranking values _
  simpa only [hbelow] using
    take_and_drop_eq_filter (fun _ _ => lt_asymm) (pairwise_ranking values) n

/-- Every other die of a roll ranks below or above a die. -/
theorem below_add_above (h : die ∈ values.zipIdx) :
    below values die + above values die + 1 = values.length := by
  obtain ⟨before, after, hranking⟩ :=
    List.append_of_mem ((ranking_perm_zipIdx values).mem_iff.mpr h)
  have hpairwise := pairwise_ranking values
  rw [hranking, List.pairwise_append, List.pairwise_cons] at hpairwise
  obtain ⟨-, ⟨hafter, -⟩, hbefore⟩ := hpairwise
  have hlow : ∀ other ∈ before, toLex other < toLex die := fun other hother =>
    hbefore other hother die List.mem_cons_self
  have hbelow : below values die = before.length := by
    have hzero : after.countP (fun other => toLex other < toLex die) = 0 :=
      List.countP_eq_zero.mpr fun other hother => by simpa using (hafter other hother).le
    have hall : before.countP (fun other => toLex other < toLex die) = before.length :=
      List.countP_eq_length.mpr fun other hother => by simpa using hlow other hother
    rw [below, ← countP_ranking, hranking, List.countP_append, hall,
      List.countP_cons_of_neg (by simp), hzero, Nat.add_zero]
  have habove : above values die = after.length := by
    have hzero : before.countP (fun other => toLex die < toLex other) = 0 :=
      List.countP_eq_zero.mpr fun other hother => by simpa using (hlow other hother).le
    have hall : after.countP (fun other => toLex die < toLex other) = after.length :=
      List.countP_eq_length.mpr fun other hother => by simpa using hafter other hother
    rw [above, ← countP_ranking, hranking, List.countP_append, hzero,
      List.countP_cons_of_neg (by simp), hall, Nat.zero_add]
  have hlength := length_ranking values
  rw [hranking, List.length_append, List.length_cons] at hlength
  omega

/-! ### Roll order -/

/-- A die of a roll is told by its position. -/
theorem eq_of_mem_zipIdx {other : Int × Nat} (hdie : die ∈ values.zipIdx)
    (hother : other ∈ values.zipIdx) (h : die.2 = other.2) : die = other := by
  rw [List.mem_zipIdx_iff_getElem?] at hdie hother
  rw [h, hother, Option.some.injEq] at hdie
  exact Prod.ext hdie.symm h

/-- Dice of a ranking that are put in roll order are listed as they stand in the roll. -/
theorem inRollOrder_filter_ranking (values : List Int) (p : Int × Nat → Bool) :
    inRollOrder ((ranking values).filter p) = (values.zipIdx.filter p).map Prod.fst := by
  have hperm : (((ranking values).filter p).mergeSort fun die other => die.2 ≤ other.2).Perm
      (values.zipIdx.filter p) :=
    (List.mergeSort_perm _ _).trans ((ranking_perm_zipIdx values).filter p)
  have hsorted : (((ranking values).filter p).mergeSort fun die other => die.2 ≤ other.2).Pairwise
      fun die other => die.2 ≤ other.2 := by
    have hmerge := @List.pairwise_mergeSort _ (fun die other : Int × Nat => die.2 ≤ other.2)
      (fun a b c hab hbc => by simp only [decide_eq_true_eq] at *; omega)
      (fun a b => by simpa using le_total a.2 b.2) ((ranking values).filter p)
    exact hmerge.imp of_decide_eq_true
  have hroll : (values.zipIdx.filter p).Pairwise fun die other => die.2 ≤ other.2 :=
    ((pairwise_zipIdx values).imp le_of_lt).filter p
  refine congrArg (List.map Prod.fst) (List.Perm.eq_of_pairwise ?_ hsorted hroll hperm)
  intro die other hdie hother hle hge
  exact eq_of_mem_zipIdx (List.mem_of_mem_filter (hperm.mem_iff.mp hdie))
    (List.mem_of_mem_filter hother) (le_antisymm hle hge)

/-! ### What a rule drops -/

/-- Whether a rule drops a die of a roll. A positive rule does when fewer dice than it says rank
below the die, and a negative one when fewer rank above. The rule zero drops none. -/
def drops (drop : Int) (values : List Int) (die : Int × Nat) : Bool :=
  if 0 ≤ drop then below values die < drop.natAbs else above values die < drop.natAbs

/-- What a rule keeps and drops is listed as it stands in the roll. -/
theorem ofDrop_eq (drop : Int) (values : List Int) :
    ofDrop drop values =
      { kept := (values.zipIdx.filter (! drops drop values ·)).map Prod.fst
        dropped := (values.zipIdx.filter (drops drop values)).map Prod.fst } := by
  simp only [ofDrop, take_and_drop_ranking, inRollOrder_filter_ranking]
  split
  · rename_i hdrop
    have hdrops : drops drop values = fun die => decide (below values die < drop.toNat) := by
      funext die
      rw [drops, if_pos hdrop, decide_eq_decide]
      omega
    rw [hdrops]
  · rename_i hdrop
    -- A die that is not among the lowest that are kept has few dice above it.
    have hdrops : ∀ die ∈ values.zipIdx,
        (! drops drop values die) = decide (below values die < values.length - drop.natAbs) := by
      intro die hdie
      have := below_add_above hdie
      rw [drops, if_neg hdrop, ← decide_not, decide_eq_decide]
      omega
    have hdropped : ∀ die ∈ values.zipIdx,
        drops drop values die = ! decide (below values die < values.length - drop.natAbs) :=
      fun die hdie => by rw [← hdrops die hdie, Bool.not_not]
    rw [List.filter_congr hdrops, List.filter_congr hdropped]

/-- The lowest dice of a roll are worth no more than the others. -/
theorem le_of_mem_take_of_mem_drop {n : Nat} {low high : Int}
    (hlow : low ∈ inRollOrder ((ranking values).take n))
    (hhigh : high ∈ inRollOrder ((ranking values).drop n)) : low ≤ high := by
  obtain ⟨die, hdie, rfl⟩ := List.mem_map.mp ((inRollOrder_perm _).mem_iff.mp hlow)
  obtain ⟨other, hother, rfl⟩ := List.mem_map.mp ((inRollOrder_perm _).mem_iff.mp hhigh)
  have hpairwise := pairwise_ranking values
  rw [← List.take_append_drop n (ranking values), List.pairwise_append] at hpairwise
  have hlt := Prod.Lex.toLex_lt_toLex.mp (hpairwise.2.2 die hdie other hother)
  omega

/-- What a drop rule selects from a roll. -/
structure ByRank (drop : Int) (values : List Int) (selection : Selection) : Prop where
  /-- The values at the positions that are not dropped stay in roll order. -/
  kept_eq : selection.kept = (values.zipIdx.filter (! drops drop values ·)).map Prod.fst
  /-- So do the values at the positions that are dropped. -/
  dropped_eq : selection.dropped = (values.zipIdx.filter (drops drop values)).map Prod.fst
  /-- As many dice are dropped as the rule says, or all of them if there are fewer. -/
  length_dropped : selection.dropped.length = min drop.natAbs values.length
  /-- Dice that a positive rule drops are worth no more than those that are kept. -/
  dropped_le : 0 < drop → ∀ low ∈ selection.dropped, ∀ high ∈ selection.kept, low ≤ high
  /-- Dice that a negative rule drops are worth no less than those that are kept. -/
  le_dropped : drop < 0 → ∀ high ∈ selection.dropped, ∀ low ∈ selection.kept, low ≤ high

/-- A drop rule takes dice away by their rank, and by nothing else. -/
theorem byRank_ofDrop (drop : Int) (values : List Int) :
    ByRank drop values (ofDrop drop values) where
  kept_eq := by rw [ofDrop_eq]
  dropped_eq := by rw [ofDrop_eq]
  length_dropped := length_dropped_ofDrop drop values
  dropped_le := by
    intro hdrop low hlow high hhigh
    rw [ofDrop, if_pos hdrop.le] at hlow hhigh
    exact le_of_mem_take_of_mem_drop hlow hhigh
  le_dropped := by
    intro hdrop high hhigh low hlow
    rw [ofDrop, if_neg (not_le.mpr hdrop)] at hhigh hlow
    exact le_of_mem_take_of_mem_drop hlow hhigh

end DiceRoll.Selection
