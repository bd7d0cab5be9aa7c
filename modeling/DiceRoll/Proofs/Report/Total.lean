import DiceRoll.Proofs.Report.Details
import DiceRoll.Proofs.Roll.Tally

/-!
# The details add up to the total

The details show absolute values behind the sign of each set. They add up to the total because no
value that a set selects has the other sign: the minimum of a set that was read is not negative.
-/

namespace DiceRoll

theorem Sign.apply_sum (sign : Sign) (values : List Int) :
    sign.apply values.sum = (values.map sign.apply).sum := by
  induction values with
  | nil => cases sign <;> rfl
  | cons first rest ih =>
    rw [List.map_cons, List.sum_cons, List.sum_cons, ← ih]
    cases sign with
    | plus => rfl
    | minus => exact Int.neg_add

/-- The kept values of an outcome lie on the side that its sign says. -/
def Outcome.Signed (outcome : Outcome) : Prop :=
  ∀ value ∈ outcome.kept,
    (if outcome.negative then Sign.minus else .plus).apply value.natAbs = value

theorem Outcome.signed_ofSelection {set : DieSet} {selection : Selection}
    (h : ∀ value ∈ selection.kept, 0 ≤ value) : (Outcome.ofSelection set selection).Signed := by
  unfold Outcome.ofSelection Outcome.Signed
  split
  · intro value hvalue
    obtain ⟨rolled, hrolled, rfl⟩ := List.mem_map.mp hvalue
    have hnonneg := h rolled hrolled
    simp only [if_true, Sign.apply]
    omega
  · intro value hvalue
    exact Int.natAbs_of_nonneg (h value hvalue)

namespace Result

/-- The summand of a set stands for the sum of what the set kept. -/
theorem apply_value_keptSummand {outcome : Outcome} (h : outcome.Signed) :
    (keptSummand outcome).1.apply (keptSummand outcome).2.value = outcome.kept.sum := by
  calc
    _ = (outcome.kept.map fun value =>
        (if outcome.negative then Sign.minus else .plus).apply value.natAbs).sum := by
      rw [keptSummand, Summand.value, Sign.apply_sum, List.map_map]
      rfl
    _ = outcome.kept.sum := by rw [List.map_congr_left h, List.map_id']

theorem apply_value_modifierSummand (value : Int) :
    (modifierSummand value).1.apply (modifierSummand value).2.value = value :=
  Sign.apply_natAbs value

/-- What the summands of a result add up to. -/
theorem total_summands {result : Result} (h : ∀ outcome ∈ result.outcomes, outcome.Signed) :
    Breakdown.total result.summands =
      (result.outcomes.map (·.kept.sum)).sum + result.modifiers.sum := by
  have hkept : (result.outcomes.map fun outcome =>
      (keptSummand outcome).1.apply (keptSummand outcome).2.value) =
      result.outcomes.map (·.kept.sum) :=
    List.map_congr_left fun outcome houtcome => apply_value_keptSummand (h outcome houtcome)
  have hmodifiers : result.shownModifiers.sum = result.modifiers.sum := by
    unfold shownModifiers
    split <;> simp_all
  rw [Breakdown.total, summands, List.map_append, List.sum_append, List.map_map, List.map_map,
    ← hkept, ← hmodifiers]
  simp only [Function.comp_def, apply_value_modifierSummand, List.map_id']

end Result

namespace Formula

variable {formula : Formula} {result : Result}

theorem Gives.total_eq (h : formula.Gives result) :
    result.total = (result.outcomes.map (·.kept.sum)).sum + result.modifiers.sum := by
  obtain ⟨selections, -, rfl⟩ := h
  exact Result.total_tally _ _

theorem Gives.signed (h : formula.Gives result) (hformula : formula.Expressible) :
    ∀ outcome ∈ result.outcomes, outcome.Signed := by
  intro outcome houtcome
  obtain ⟨set, hset, selection, hselects, rfl⟩ := h.exists_of_mem_outcomes houtcome
  refine Outcome.signed_ofSelection fun value hvalue => ?_
  exact (hformula.sets set hset).minimum_nonneg.trans
    (hselects.minimum_le (List.mem_append_left _ hvalue))

/-- The details of a result, read as a sum, come to its total. -/
theorem value?_details_eq_total {written : Text} {ceiling : Int} {source : Source}
    (hparse : parse written = .ok formula)
    (hroll : ((formula.roll ceiling).run source).outcome = .ok result) :
    ∃ text, result.details = .ok text ∧ Breakdown.value? text = some result.total := by
  have hformula := expressible_of_parse hparse
  have hgives := (formula.meets_roll ceiling).of_outcome_eq_ok hroll
  obtain ⟨hdetails, -⟩ := hgives.detailsFit_and_droppedFit hformula
  obtain ⟨text, htext⟩ := result.givesWhen_details.exists_iff.mpr hdetails
  refine ⟨text, htext, ?_⟩
  rw [Breakdown.value?, Result.read?_of_details_eq_ok htext, Option.map_some,
    Result.total_summands (hgives.signed hformula), ← hgives.total_eq]

/-- Two sets, the second one subtracted and its three raised to a four, and a modifier. -/
theorem value?_details_of_subtracted_set :
    let written := "2d6-d4m4-3".toList
    let formula : Formula :=
      { sets := [{ size := 6, signedCount := 2 }, { size := 4, signedCount := -1, minimum := 4 }]
        modifiers := [-3] }
    let result : Result :=
      { outcomes := [{ kept := [5, 2] }, { kept := [-4], negative := true }]
        modifiers := [-3]
        total := 0 }
    parse written = .ok formula ∧
      ((formula.roll 10).run (.ofDraws [5, 2, 3])).outcome = .ok result ∧
      ∃ text, result.details = .ok text ∧ Breakdown.value? text = some 0 := by
  intro written formula result
  have hparse : parse written = .ok formula := by decide +kernel
  have hroll : ((formula.roll 10).run (.ofDraws [5, 2, 3])).outcome = .ok result := by
    subst formula result
    cbv
  exact ⟨hparse, hroll, value?_details_eq_total hparse hroll⟩

end Formula

end DiceRoll
