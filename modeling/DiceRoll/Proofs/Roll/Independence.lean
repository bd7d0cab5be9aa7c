import DiceRoll.Proofs.Roll.Alike
import DiceRoll.Proofs.Sequence

/-!
# What the draws do not depend on

The sign of a set, its drop rule, its minimum and the modifiers do not influence which dice are
drawn. Formulas whose sets agree in all else are rolled alike, except where a minimum makes a value
too long to be told of in one of them only. No minimum that can be written itself does that.
-/

namespace DiceRoll

/-- Two selections are made from equally many dice. -/
def Selection.SameSize (selection other : Selection) : Prop :=
  selection.kept.length + selection.dropped.length = other.kept.length + other.dropped.length

/-- Each outcome of a result comes from as many dice as that of another. -/
def Result.SameSizes (result other : Result) : Prop :=
  List.Forall₂ (fun outcome other => outcome.kept.length + outcome.dropped.length =
    other.kept.length + other.dropped.length) result.outcomes other.outcomes

theorem Outcome.length_kept_ofSelection (set : DieSet) (selection : Selection) :
    (Outcome.ofSelection set selection).kept.length = selection.kept.length := by
  unfold Outcome.ofSelection
  split <;> simp

theorem Outcome.length_dropped_ofSelection (set : DieSet) (selection : Selection) :
    (Outcome.ofSelection set selection).dropped.length = selection.dropped.length := by
  unfold Outcome.ofSelection
  split <;> simp

/-- Selections from equally many dice give outcomes of equally many dice. -/
theorem Result.sameSizes_tally {sets others : List DieSet} {selections choices : List Selection}
    {modifiers more : List Int} (hsets : sets.length = others.length)
    (h : List.Forall₂ Selection.SameSize selections choices) :
    SameSizes (tally (sets.zip selections) modifiers) (tally (others.zip choices) more) := by
  unfold SameSizes tally
  simp only [List.forall₂_map_left_iff, List.forall₂_map_right_iff,
    Outcome.length_kept_ofSelection, Outcome.length_dropped_ofSelection]
  induction h generalizing sets others with
  | nil => simp
  | cons hfirst _ ih =>
    cases sets with
    | nil => simp [List.eq_nil_of_length_eq_zero hsets.symm]
    | cons set sets =>
      obtain ⟨other, others, rfl⟩ := List.exists_cons_of_length_eq_add_one hsets.symm
      exact .cons hfirst (ih (by simpa using hsets))

namespace DieSet

variable {set other : DieSet} {ceiling : Int} {source : Source}

/-- Selections from sets that are drawn alike are made from equally many dice. -/
theorem DrawnAlike.sameSize_selection (h : set.DrawnAlike other) (source : Source) :
    (set.selection ceiling source).SameSize (other.selection ceiling source) := by
  simp only [Selection.SameSize, selection, Selection.length_kept_add_length_dropped, values,
    List.length_map, h.reading_eq, h.rerolled]

/-- Under a minimum that can be written, a value can be written when its face is not too great. -/
theorem fits_max_iff {minimum : Int} (h : Text.fits minimum = true) (face : Int) :
    Text.fits (max face minimum) = true ↔ face < (10 ^ Text.maxDigits : Nat) := by
  rw [Text.fits_iff] at h ⊢
  generalize 10 ^ Text.maxDigits = bound at h ⊢
  omega

/-- Minima that can be written do not decide what can be told of a set. -/
theorem DrawnAlike.tellable_iff_of_fits (h : set.DrawnAlike other)
    (hset : Text.fits set.minimum = true) (hother : Text.fits other.minimum = true) :
    set.Tellable ceiling source ↔ other.Tellable ceiling source := by
  simp only [tellable_iff, values, List.forall_mem_map, fits_max_iff hset, fits_max_iff hother,
    h.reading_eq, h.rerolled, h.size, h.fits_signedCount_eq]

end DieSet

namespace Formula

variable {ceiling : Int} {sets others : List DieSet} {source : Source}

/-- Sets whose minima can be written can equally be told of. -/
theorem equallyTold_of_fits (h : List.Forall₂ DieSet.DrawnAlike sets others)
    (hsets : ∀ set ∈ sets, Text.fits set.minimum = true)
    (hothers : ∀ set ∈ others, Text.fits set.minimum = true) :
    EquallyTold ceiling sets others source := by
  have hfits := (List.forall₂_and_left sets others).mpr
    ⟨hsets, ((List.forall₂_and_left others sets).mpr ⟨hothers, h.flip⟩).flip⟩
  exact equallyTold_of_forall₂
    (fun hset source => hset.2.2.tellable_iff_of_fits hset.1 hset.2.1) hfits

/-- A set whose dice have come to rest can be told of when more happens than that. -/
theorem tellable_iff_lt_length {set : DieSet} (h : set.Settles ceiling source)
    (sets : List DieSet) :
    set.Tellable ceiling source ↔
      (set.capEvents ceiling ++ set.drawEvents ceiling source).length <
        (Roll.run ((set :: sets).mapM fun set => set.roll ceiling) source).events.length := by
  rw [List.mapM_cons]
  by_cases htell : set.Tellable ceiling source
  · refine iff_of_true htell ?_
    rw [Roll.run_bind_of_ok (DieSet.run_roll_of_tellable h htell)]
    simp only [List.length_append, List.length_singleton]
    omega
  · refine iff_of_false htell ?_
    rw [Roll.run_bind_of_error (DieSet.run_roll_of_not_tellable h htell)]
    exact lt_irrefl _

/-- Sets of which alike events are told can equally be told of. -/
theorem equallyTold_of_events {related : DieSet → DieSet → Prop}
    {selected : Selection → Selection → Prop} (h : List.Forall₂ DieSet.DrawnAlike sets others)
    (hevents : List.Forall₂ (Event.Alike related selected)
      (Roll.run (sets.mapM fun set => set.roll ceiling) source).events
      (Roll.run (others.mapM fun set => set.roll ceiling) source).events) :
    EquallyTold ceiling sets others source := by
  induction h generalizing source with
  | nil => trivial
  | @cons set other sets others hset _ ih =>
    intro hsettles
    have hsettles' := hset.settles_iff.mp hsettles
    have htellable : set.Tellable ceiling source ↔ other.Tellable ceiling source := by
      rw [tellable_iff_lt_length hsettles sets, tellable_iff_lt_length hsettles' others,
        hevents.length_eq, hset.capEvents_eq, hset.drawEvents_eq]
    refine ⟨htellable, fun htell => ih ?_⟩
    -- Both sets are told of, and the rolls go on from the same source.
    have hrun := DieSet.run_roll_of_tellable hsettles htell
    have hrun' := DieSet.run_roll_of_tellable hsettles' (htellable.mp htell)
    rw [List.mapM_cons, List.mapM_cons, Roll.run_bind_of_ok hrun, Roll.run_bind_of_ok hrun',
      ← hset.capEvents_eq, ← hset.drawEvents_eq, ← hset.reading_eq] at hevents
    simp only [← map_eq_pure_bind, Roll.run_map] at hevents
    exact forall₂_of_append hevents (by simp)

/-- What happens when a formula is rolled happens when its sets are rolled. -/
theorem events_roll (formula : Formula) (ceiling : Int) (source : Source) :
    ((formula.roll ceiling).run source).events =
      (Roll.run (formula.sets.mapM fun set => set.roll ceiling) source).events := by
  rw [roll_eq_map, Roll.run_map]
  rfl

/-- Two formulas whose sets differ in sign, drop rule and minimum only are rolled alike exactly when
their sets can equally be told of, which they can when all their minima can be written. -/
theorem alike_run_roll_iff {left right : Formula}
    (h : List.Forall₂ DieSet.DrawnAlike left.sets right.sets) (ceiling : Int) (source : Source) :
    (Run.Alike DieSet.DrawnAlike Selection.SameSize Result.SameSizes
        ((left.roll ceiling).run source) ((right.roll ceiling).run source) ↔
      EquallyTold ceiling left.sets right.sets source) ∧
    ((∀ set ∈ left.sets ++ right.sets, Text.fits set.minimum = true) →
      EquallyTold ceiling left.sets right.sets source) := by
  refine ⟨⟨fun halike => ?_, fun htold => ?_⟩, fun hfits => ?_⟩
  · have hevents := halike.events
    rw [events_roll, events_roll] at hevents
    exact equallyTold_of_events h hevents
  · have hsets : Run.Alike DieSet.DrawnAlike Selection.SameSize (List.Forall₂ Selection.SameSize)
        ((left.rollSets ceiling).run source) ((right.rollSets ceiling).run source) :=
      alike_run_mapM_roll id (fun hset source => hset.sameSize_selection source) h htold
    rw [roll_eq_map, roll_eq_map]
    exact hsets.map fun _ _ hselections => Result.sameSizes_tally h.length_eq hselections
  · exact equallyTold_of_fits h (fun set hset => hfits set (List.mem_append_left _ hset))
      fun set hset => hfits set (List.mem_append_right _ hset)

/-- Three dice that lose their lowest, and three subtracted ones that lose their two highest and
count for at least four, are rolled alike. -/
theorem alike_three_dice :
    let left : Formula := { sets := [{ size := 6, signedCount := 3, drop := 1 }], modifiers := [5] }
    let right : Formula := { sets := [{ size := 6, signedCount := -3, drop := -2, minimum := 4 }] }
    List.Forall₂ DieSet.DrawnAlike left.sets right.sets ∧
      (∀ set ∈ left.sets ++ right.sets, Text.fits set.minimum = true) ∧
      Run.Alike DieSet.DrawnAlike Selection.SameSize Result.SameSizes
        ((left.roll 10).run (.ofDraws [5, 2, 3])) ((right.roll 10).run (.ofDraws [5, 2, 3])) := by
  intro left right
  have hsets : List.Forall₂ DieSet.DrawnAlike left.sets right.sets :=
    .cons ⟨rfl, rfl, rfl, rfl⟩ .nil
  have hfits : ∀ set ∈ left.sets ++ right.sets, Text.fits set.minimum = true := by decide
  obtain ⟨halike, htold⟩ := alike_run_roll_iff hsets 10 (.ofDraws [5, 2, 3])
  exact ⟨hsets, hfits, halike.mpr (htold hfits)⟩

/-! ### A minimum that is too long -/

/-- The least minimum that is too long to be written. -/
@[irreducible] def longMinimum : Int := (10 ^ Text.maxDigits : Nat)

theorem not_fits_max_longMinimum (face : Int) : ¬ Text.fits (max face longMinimum) = true := by
  rw [Text.fits_iff, longMinimum]
  generalize 10 ^ Text.maxDigits = bound
  omega

/-- A minimum that is too long to be told of ends a roll that goes on without it, so the second die
is drawn in one of them only. -/
theorem not_alike_longMinimum :
    let left : Formula :=
      { sets := [{ size := 6, signedCount := 1 }, { size := 6, signedCount := 1 }] }
    let right : Formula :=
      { sets := [{ size := 6, signedCount := 1, minimum := longMinimum },
          { size := 6, signedCount := 1 }] }
    List.Forall₂ DieSet.DrawnAlike left.sets right.sets ∧
      ¬ Run.Alike DieSet.DrawnAlike Selection.SameSize Result.SameSizes
        ((left.roll 10).run (.ofDraws [3, 4])) ((right.roll 10).run (.ofDraws [3, 4])) := by
  intro left right
  have hsets : List.Forall₂ DieSet.DrawnAlike left.sets right.sets :=
    .cons ⟨rfl, rfl, rfl, rfl⟩ (.cons ⟨rfl, rfl, rfl, rfl⟩ .nil)
  refine ⟨hsets, fun halike => ?_⟩
  have hevents := halike.events
  rw [events_roll, events_roll] at hevents
  have htold := equallyTold_of_events hsets hevents
  have hsettles : DieSet.Settles { size := 6, signedCount := 1 } 10 (.ofDraws [3, 4]) :=
    ⟨by decide, by decide, by decide⟩
  have hright := (htold hsettles).1.mp
    (DieSet.tellable_iff.mpr ⟨by decide, by decide, by decide⟩)
  exact not_fits_max_longMinimum 3 ((DieSet.tellable_iff.mp hright).2.2 _ List.mem_cons_self)

end Formula

end DiceRoll
