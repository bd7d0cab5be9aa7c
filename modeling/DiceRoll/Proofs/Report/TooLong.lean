import DiceRoll.Proofs.Command.Faithful

/-!
# Results with long numbers

Sizes, minima and modifiers are literals, so in a roll whose draws stay in range every number is
short enough to be written, but for the total. The total is a sum of any length, and the line of a
result fails at a total of more than `maxDigits` digits and at nothing else.
-/

namespace DiceRoll

/-- A number that may be too long is so exactly when the condition for writing it fails. -/
theorem GivesWhen.eq_error_iff {α : Type} {attempt : Except Text.TooLong α} {condition : Prop}
    {value : α} (h : GivesWhen attempt condition value) :
    attempt = .error {} ↔ ¬ condition := by
  rw [← h.exists_iff]
  cases attempt <;> simp

namespace Formula

/-- Rolling a formula in range does not end for want of digits. What a result shows of its dice and
modifiers can be written, and its line exactly when the total is below the limit. -/
theorem line_eq_error_iff {written : Text} {formula : Formula}
    (hparse : parse written = .ok formula) (ceiling : Int) (source : Source) :
    let run := (formula.roll ceiling).run source
    (Text.fits ceiling = true → (∀ event ∈ run.events, event.InRange) →
      run.outcome ≠ .error .tooLong) ∧
    ∀ result, run.outcome = .ok result →
      (∃ text, result.details = .ok text) ∧ (∃ text, result.dropped = .ok text) ∧
        (result.line = .error {} ↔ 10 ^ Text.maxDigits ≤ result.total.natAbs) := by
  intro run
  have hformula := expressible_of_parse hparse
  refine ⟨fun hceiling hrange htooLong => ?_, fun result hresult => ?_⟩
  · have hends := meets_roll_inRange hformula hceiling source hrange
    change run.Ends _ _ at hends
    rw [Run.Ends, htooLong] at hends
    exact hends rfl
  · have hgives := (formula.meets_roll ceiling).of_outcome_eq_ok hresult
    obtain ⟨hdetails, hdropped⟩ := hgives.detailsFit_and_droppedFit hformula
    refine ⟨result.givesWhen_details.exists_iff.mpr hdetails,
      result.givesWhen_dropped.exists_iff.mpr hdropped, ?_⟩
    calc
      result.line = .error {} ↔
          ¬ (Text.fits result.total = true ∧ result.DetailsFit ∧ result.DroppedFit) :=
        result.givesWhen_line.eq_error_iff
      _ ↔ ¬ Text.fits result.total = true := by
        rw [and_iff_left (And.intro hdetails hdropped)]
      _ ↔ 10 ^ Text.maxDigits ≤ result.total.natAbs := by rw [Text.fits_iff, Nat.not_lt]

/-- A one, added to the greatest number that can be written, gives the least total that cannot. -/
theorem line_eq_error_of_one_and_greatest :
    let formula : Formula :=
      { sets := [{ size := 6, signedCount := 1 }], modifiers := [Command.greatest] }
    let result : Result :=
      { outcomes := [{ kept := [1] }], modifiers := [Command.greatest]
        total := 1 + Command.greatest
        isFumble := true }
    parse formula.write = .ok formula ∧
      ((formula.roll 10).run (.ofDraws [1])).outcome = .ok result ∧
      (∃ text, result.details = .ok text) ∧ result.line = .error {} := by
  intro formula result
  have hparse : parse formula.write = .ok formula := parse_write {
    ne_nil := by simp [formula]
    sets := by
      simp only [formula, List.mem_singleton, forall_eq]
      constructor <;> decide
    modifiers := by simp [formula, Command.fits_greatest] }
  have hsets : ((formula.rollSets 10).run (.ofDraws [1])).outcome = .ok [⟨[1], []⟩] := by
    change (Roll.run ([{ size := 6, signedCount := 1 }].mapM fun set => DieSet.roll set 10)
      (.ofDraws [1])).outcome = _
    cbv
  have hroll : ((formula.roll 10).run (.ofDraws [1])).outcome = .ok result := by
    rw [roll_eq_map, Roll.run_map, hsets]
    rfl
  obtain ⟨hdetails, -, hline⟩ := (line_eq_error_iff hparse 10 (.ofDraws [1])).2 result hroll
  refine ⟨hparse, hroll, hdetails, hline.mpr ?_⟩
  have hgreatest : Command.greatest = (10 ^ Text.maxDigits - 1 : Nat) := by rw [Command.greatest]
  generalize 10 ^ Text.maxDigits = bound at hgreatest ⊢
  simp only [result, hgreatest]
  omega

end Formula

end DiceRoll
