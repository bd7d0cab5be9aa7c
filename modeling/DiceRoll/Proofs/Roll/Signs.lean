import DiceRoll.Proofs.Roll.Alike
import DiceRoll.Proofs.Roll.Tally

/-!
# What the signs of sets decide

A set under the other sign is rolled alike, and the same dice are kept and dropped. So with the sets
at some places of a formula subtracted instead of added, what these sets contribute is negated and
all else stays as it is.
-/

namespace DiceRoll

/-- Changes the items at some positions of a list. -/
def mapAt {α : Type} (positions : Finset Nat) (change : α → α) (items : List α) : List α :=
  items.mapIdx fun position item => if position ∈ positions then change item else item

section Lists

variable {α β : Type} {positions : Finset Nat} {change : α → α}

/-- A change that an observation does not see is not seen in a list. -/
theorem map_mapAt_of_forall {observe : α → β} (h : ∀ item, observe (change item) = observe item)
    (items : List α) : (mapAt positions change items).map observe = items.map observe := by
  refine List.ext_getElem (by simp [mapAt]) fun position _ _ => ?_
  simp only [mapAt, List.getElem_map, List.getElem_mapIdx]
  split
  · exact h _
  · rfl

/-- A change that makes a related item gives a related list. -/
theorem forall₂_mapAt {related : α → α → Prop} {items : List α}
    (h : ∀ item ∈ items, related item (change item)) (hrefl : ∀ item, related item item) :
    List.Forall₂ related items (mapAt positions change items) := by
  refine List.forall₂_iff_get.mpr ⟨by simp [mapAt], fun position hitem _ => ?_⟩
  simp only [List.get_eq_getElem, mapAt, List.getElem_mapIdx]
  split
  · exact h _ (List.getElem_mem hitem)
  · exact hrefl _

/-- Negated at some positions, values add up to twice as much less as they do at these positions. -/
theorem sum_mapIdx_neg (chosen : Nat → Prop) [DecidablePred chosen] (value : α → Int)
    (items : List α) :
    (items.mapIdx fun i item => if chosen i then -value item else value item).sum =
      (items.map value).sum -
        2 * (items.mapIdx fun i item => if chosen i then value item else 0).sum := by
  induction items generalizing chosen with
  | nil => rfl
  | cons item items ih =>
    have hrest := ih fun i => chosen (i + 1)
    simp only [List.mapIdx_cons, List.map_cons, List.sum_cons, hrest]
    split <;> ring

end Lists

/-! ### Sets -/

namespace DieSet

variable {set other : DieSet} {ceiling : Int} {source : Source}

/-- The set under the other sign. -/
def negate (set : DieSet) : DieSet :=
  { set with signedCount := -set.signedCount }

@[simp] theorem signedCount_negate (set : DieSet) : set.negate.signedCount = -set.signedCount := rfl

theorem isNegative_negate (h : set.signedCount ≠ 0) : set.negate.isNegative = !set.isNegative := by
  rw [isNegative, isNegative, ← decide_not, decide_eq_decide, signedCount_negate]
  omega

/-- Two sets differ in their signs at most. -/
structure SameButSign (set other : DieSet) : Prop extends DrawnAlike set other where
  drop : set.drop = other.drop
  minimum : set.minimum = other.minimum

theorem sameButSign_refl (set : DieSet) : set.SameButSign set :=
  ⟨⟨rfl, rfl, rfl, rfl⟩, rfl, rfl⟩

theorem sameButSign_negate (set : DieSet) : set.SameButSign set.negate :=
  ⟨⟨rfl, (Int.natAbs_neg _).symm, rfl, rfl⟩, rfl, rfl⟩

/-- The sign does not decide which dice are kept. -/
theorem SameButSign.selection_eq (h : set.SameButSign other) (source : Source) :
    set.selection ceiling source = other.selection ceiling source := by
  simp only [selection, values, h.reading_eq, h.rerolled, h.drop, h.minimum]

/-- The sign does not decide what can be told of. -/
theorem SameButSign.tellable_iff (h : set.SameButSign other) (source : Source) :
    set.Tellable ceiling source ↔ other.Tellable ceiling source := by
  simp only [DieSet.tellable_iff, values, h.reading_eq, h.rerolled, h.minimum, h.size,
    h.fits_signedCount_eq]

end DieSet

/-! ### Results -/

/-- The outcome of the same dice under the other sign. -/
def Outcome.negate (outcome : Outcome) : Outcome where
  kept := outcome.kept.map (-·)
  dropped := outcome.dropped.map (-·)
  negative := !outcome.negative

theorem Outcome.sum_kept_negate (outcome : Outcome) :
    outcome.negate.kept.sum = -outcome.kept.sum :=
  (List.sum_neg outcome.kept).symm

/-- A set of some dice contributes the negated values under the other sign. -/
theorem Outcome.ofSelection_negate {set : DieSet} (h : set.signedCount ≠ 0)
    (selection : Selection) :
    Outcome.ofSelection set.negate selection = (Outcome.ofSelection set selection).negate := by
  rw [Outcome.ofSelection, Outcome.ofSelection, DieSet.isNegative_negate h]
  cases set.isNegative <;> simp [Outcome.negate]

namespace Result

/-- What the sets at some positions keep. -/
def keptAt (positions : Finset Nat) (outcomes : List Outcome) : Int :=
  (outcomes.mapIdx fun i outcome => if i ∈ positions then outcome.kept.sum else 0).sum

/-- The result of the same dice with the sets at some positions under the other sign. -/
structure Mirrors (positions : Finset Nat) (result mirrored : Result) : Prop where
  outcomes : mirrored.outcomes = mapAt positions Outcome.negate result.outcomes
  modifiers : mirrored.modifiers = result.modifiers
  isCrit : mirrored.isCrit = result.isCrit
  isFumble : mirrored.isFumble = result.isFumble
  total : mirrored.total = result.total - 2 * keptAt positions result.outcomes

variable {sets : List DieSet} {selections : List Selection} {modifiers : List Int}

/-- Of the sets only the sizes matter to the dice that are kept. -/
theorem keptDice_zip (sets : List DieSet) (selections : List Selection) :
    keptDice (sets.zip selections) = ((sets.map DieSet.size).zip selections).flatMap
      fun (size, selection) => selection.kept.map (·, size) := by
  rw [List.zip_map_left, List.flatMap_map]
  rfl

theorem keptDice_mapAt (positions : Finset Nat) (sets : List DieSet)
    (selections : List Selection) :
    keptDice ((mapAt positions DieSet.negate sets).zip selections) =
      keptDice (sets.zip selections) := by
  have hsize : ∀ set : DieSet, set.negate.size = set.size := fun _ => rfl
  rw [keptDice_zip, keptDice_zip, map_mapAt_of_forall hsize]

/-- Sets under the other sign give their outcomes under the other sign. -/
theorem outcomes_tally_mapAt (h : ∀ set ∈ sets, set.signedCount ≠ 0) (positions : Finset Nat) :
    (tally ((mapAt positions DieSet.negate sets).zip selections) modifiers).outcomes =
      mapAt positions Outcome.negate (tally (sets.zip selections) modifiers).outcomes := by
  refine List.ext_getElem (by simp [tally, mapAt]) fun position hposition _ => ?_
  have hset : position < sets.length := by
    simp only [tally, mapAt, List.length_map, List.length_zip, List.length_mapIdx] at hposition
    omega
  simp only [tally, mapAt, List.getElem_map, List.getElem_zip, List.getElem_mapIdx]
  split
  · exact Outcome.ofSelection_negate (h _ (List.getElem_mem hset)) _
  · rfl

theorem mirrors_tally (h : ∀ set ∈ sets, set.signedCount ≠ 0) (positions : Finset Nat) :
    Mirrors positions (tally (sets.zip selections) modifiers)
      (tally ((mapAt positions DieSet.negate sets).zip selections) modifiers) where
  outcomes := outcomes_tally_mapAt h positions
  modifiers := rfl
  isCrit := by simp only [tally, keptDice_mapAt]
  isFumble := by simp only [tally, keptDice_mapAt]
  total := by
    rw [total_tally, total_tally, outcomes_tally_mapAt h positions]
    generalize (tally (sets.zip selections) modifiers).outcomes = outcomes
    have hkept : ((mapAt positions Outcome.negate outcomes).map (·.kept.sum)).sum =
        (outcomes.mapIdx fun i outcome =>
          if i ∈ positions then -outcome.kept.sum else outcome.kept.sum).sum := by
      congr 1
      refine List.ext_getElem (by simp [mapAt]) fun position _ _ => ?_
      simp only [mapAt, List.getElem_map, List.getElem_mapIdx]
      split
      · exact Outcome.sum_kept_negate _
      · rfl
    rw [hkept, sum_mapIdx_neg (· ∈ positions) (fun outcome : Outcome => outcome.kept.sum), keptAt]
    ring

/-- With all sets and modifiers under the other sign, so is the total. -/
theorem total_tally_negate (h : ∀ set ∈ sets, set.signedCount ≠ 0) :
    (tally ((sets.map DieSet.negate).zip selections) (modifiers.map (-·))).total =
      -(tally (sets.zip selections) modifiers).total := by
  have houtcomes : (tally ((sets.map DieSet.negate).zip selections) (modifiers.map (-·))).outcomes =
      (tally (sets.zip selections) modifiers).outcomes.map Outcome.negate := by
    simp only [tally, List.zip_map_left, List.map_map]
    refine List.map_congr_left fun rolled hmem => ?_
    exact Outcome.ofSelection_negate (h rolled.1 (List.of_mem_zip hmem).1) rolled.2
  have hkept (outcomes : List Outcome) :
      ((outcomes.map Outcome.negate).map (·.kept.sum)).sum = -(outcomes.map (·.kept.sum)).sum := by
    rw [List.sum_neg, List.map_map, List.map_map]
    simp only [Function.comp_def, Outcome.sum_kept_negate]
  rw [total_tally, total_tally, houtcomes, hkept, ← List.sum_neg, neg_add]

end Result

/-! ### Formulas -/

namespace Formula

/-- The formula with the sets at some positions under the other sign. -/
def negateAt (positions : Finset Nat) (formula : Formula) : Formula :=
  { formula with sets := mapAt positions DieSet.negate formula.sets }

/-- The formula with all sets and modifiers under the other sign. -/
def negate (formula : Formula) : Formula :=
  { sets := formula.sets.map DieSet.negate, modifiers := formula.modifiers.map (-·) }

/-- Sets that differ in their signs at most give the same selections. -/
theorem alike_run_rollSets {left right : Formula}
    (h : List.Forall₂ DieSet.SameButSign left.sets right.sets) (ceiling : Int) (source : Source) :
    Run.Alike DieSet.SameButSign Eq Eq ((left.rollSets ceiling).run source)
      ((right.rollSets ceiling).run source) := by
  have htold : EquallyTold ceiling left.sets right.sets source :=
    equallyTold_of_forall₂ (fun hset source => hset.tellable_iff source) h
  have hsets := alike_run_mapM_roll (fun hset => hset.toDrawnAlike)
    (fun hset source => hset.selection_eq source) h htold
  rwa [List.forall₂_eq_eq_eq] at hsets

/-- With the sets at some positions under the other sign, a formula is rolled alike: the values of
these sets are negated, and the total changes by twice what they keep. With all sets and modifiers
under the other sign, so is the total. -/
theorem alike_run_roll_negateAt {formula : Formula} (h : ∀ set ∈ formula.sets, set.signedCount ≠ 0)
    (positions : Finset Nat) (ceiling : Int) (source : Source) :
    Run.Alike DieSet.SameButSign Eq (Result.Mirrors positions) ((formula.roll ceiling).run source)
      (((formula.negateAt positions).roll ceiling).run source) ∧
    Run.Alike DieSet.SameButSign Eq (fun result mirrored => mirrored.total = -result.total)
      ((formula.roll ceiling).run source) ((formula.negate.roll ceiling).run source) := by
  have hsome : List.Forall₂ DieSet.SameButSign formula.sets (formula.negateAt positions).sets :=
    forall₂_mapAt (fun set _ => set.sameButSign_negate) DieSet.sameButSign_refl
  have hall : List.Forall₂ DieSet.SameButSign formula.sets formula.negate.sets :=
    List.forall₂_map_right_iff.mpr (List.forall₂_same.mpr fun set _ => set.sameButSign_negate)
  rw [roll_eq_map, roll_eq_map, roll_eq_map]
  constructor
  · refine (alike_run_rollSets hsome ceiling source).map fun selections _ heq => ?_
    subst heq
    exact Result.mirrors_tally h positions
  · refine (alike_run_rollSets hall ceiling source).map fun selections _ heq => ?_
    subst heq
    exact Result.total_tally_negate h

/-- The highest two of three dice less an eight-sided die, and the same dice with both sets
subtracted. -/
theorem alike_two_dice_subtracted :
    let formula : Formula :=
      { sets := [{ size := 6, signedCount := 3, drop := 1 }, { size := 8, signedCount := -1 }] }
    (∀ set ∈ formula.sets, set.signedCount ≠ 0) ∧
      Run.Alike DieSet.SameButSign Eq (Result.Mirrors {0})
        ((formula.roll 10).run (.ofDraws [5, 2, 3, 7]))
        (((formula.negateAt {0}).roll 10).run (.ofDraws [5, 2, 3, 7])) := by
  intro formula
  have hcounts : ∀ set ∈ formula.sets, set.signedCount ≠ 0 := by decide
  exact ⟨hcounts, (alike_run_roll_negateAt hcounts {0} 10 (.ofDraws [5, 2, 3, 7])).1⟩

end Formula

end DiceRoll
