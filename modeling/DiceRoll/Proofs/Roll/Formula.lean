import DiceRoll.Roll.Formula
import DiceRoll.Proofs.Roll.Drop
import DiceRoll.Proofs.Roll.Meets
import DiceRoll.Proofs.Sequence
import DiceRoll.Proofs.Text.Numeral

/-!
# What rolling a formula gives

Each set of a formula gives a selection from the values of the faces drawn for it, and all of these
values were short enough to be told of.
-/

namespace DiceRoll

variable {allowed : Event → Prop}

namespace DieSet

/-- A selection that rolling the set can give. -/
structure Selects (set : DieSet) (selection : Selection) : Prop where
  rolled : ∃ faces, selection = Selection.ofDrop set.drop (set.values faces)
  written : (Event.rolled set selection).isWritable = true

theorem meets_roll (set : DieSet) (ceiling : Int) :
    Roll.Meets allowed (set.roll ceiling) set.Selects fun _ => True := by
  intro source _
  have hrolls := set.rolls_run_roll ceiling source
  generalize (set.roll ceiling).run source = run at hrolls ⊢
  cases hrolls with
  | done _ _ _ short => exact ⟨⟨_, rfl⟩, short⟩
  | endless | capUnwritable | exhausted | unwritable => exact trivial

variable {set : DieSet} {selection : Selection} {value : Int}

/-- Every selected value reaches the minimum of the set. -/
theorem Selects.minimum_le (h : set.Selects selection)
    (hvalue : value ∈ selection.kept ++ selection.dropped) : set.minimum ≤ value := by
  obtain ⟨faces, rfl⟩ := h.rolled
  have hmem := (Selection.kept_append_dropped_perm set.drop (set.values faces)).mem_iff.mp hvalue
  obtain ⟨face, -, rfl⟩ := List.mem_map.mp hmem
  exact le_max_right _ _

/-- Every selected value is short enough to be written. -/
theorem Selects.fits (h : set.Selects selection)
    (hvalue : value ∈ selection.kept ++ selection.dropped) : Text.fits value = true := by
  have hwritten := h.written
  rw [Event.isWritable, List.all_eq_true] at hwritten
  exact hwritten value (List.mem_cons_of_mem _ (List.mem_cons_of_mem _ hvalue))

end DieSet

namespace Formula

/-- A result that rolling the formula can give. -/
def Gives (formula : Formula) (result : Result) : Prop :=
  ∃ selections, List.Forall₂ DieSet.Selects formula.sets selections ∧
    result = Result.tally (formula.sets.zip selections) formula.modifiers

/-- Rolling a formula gives the result of a good selection from each of its sets, or a fault of one
of them. -/
theorem meets_roll_of_sets {formula : Formula} {ceiling : Int} {good : DieSet → Selection → Prop}
    {bad : Fault → Prop}
    (h : ∀ set ∈ formula.sets, Roll.Meets allowed (set.roll ceiling) (good set) bad) :
    Roll.Meets allowed (formula.roll ceiling)
      (fun result => ∃ selections, List.Forall₂ good formula.sets selections ∧
        result = Result.tally (formula.sets.zip selections) formula.modifiers) bad := by
  have hsets : Roll.Meets allowed (formula.rollSets ceiling)
      (List.Forall₂ good formula.sets) bad := Roll.meets_mapM h
  exact hsets.bind fun selections hselections => Roll.meets_pure ⟨selections, hselections, rfl⟩

/-- Rolling a formula gives a result, or a fault of one of its sets. -/
theorem meets_roll_of {formula : Formula} {ceiling : Int} {bad : Fault → Prop}
    (h : ∀ set ∈ formula.sets, Roll.Meets allowed (set.roll ceiling) set.Selects bad) :
    Roll.Meets allowed (formula.roll ceiling) formula.Gives bad :=
  meets_roll_of_sets h

theorem meets_roll (formula : Formula) (ceiling : Int) :
    Roll.Meets allowed (formula.roll ceiling) formula.Gives fun _ => True :=
  meets_roll_of fun set _ => set.meets_roll ceiling

/-- Rolling a formula rolls its sets and adds up their selections. -/
theorem roll_eq_map (formula : Formula) (ceiling : Int) :
    formula.roll ceiling =
      (fun selections => Result.tally (formula.sets.zip selections) formula.modifiers) <$>
        formula.rollSets ceiling :=
  (map_eq_pure_bind _ _).symm

/-- Each set of a formula that is rolled to its end gives one selection. -/
theorem length_selections {formula : Formula} {ceiling : Int} {source : Source}
    {selections : List Selection}
    (h : ((formula.rollSets ceiling).run source).outcome = .ok selections) :
    selections.length = formula.sets.length := by
  have hsets : Roll.Meets (fun _ => True) (formula.rollSets ceiling)
      (List.Forall₂ DieSet.Selects formula.sets) fun _ => True :=
    Roll.meets_mapM fun set _ => set.meets_roll ceiling
  exact (hsets.of_outcome_eq_ok h).length_eq.symm

/-- Each outcome of a result comes from a selection of one of the sets. -/
theorem Gives.exists_of_mem_outcomes {formula : Formula} {result : Result}
    (h : formula.Gives result) {outcome : Outcome} (houtcome : outcome ∈ result.outcomes) :
    ∃ set ∈ formula.sets, ∃ selection, set.Selects selection ∧
      outcome = Outcome.ofSelection set selection := by
  obtain ⟨selections, hselections, rfl⟩ := h
  obtain ⟨⟨set, selection⟩, hpair, rfl⟩ := List.mem_map.mp houtcome
  exact ⟨set, (List.of_mem_zip hpair).1, selection, List.forall₂_zip hselections hpair, rfl⟩

/-- Whatever a set kept or dropped is short enough to be written. -/
theorem Gives.fits {formula : Formula} {result : Result} (h : formula.Gives result)
    {outcome : Outcome} (houtcome : outcome ∈ result.outcomes) {value : Int}
    (hvalue : value ∈ outcome.kept ++ outcome.dropped) : Text.fits value = true := by
  obtain ⟨set, -, selection, hselects, rfl⟩ := h.exists_of_mem_outcomes houtcome
  unfold Outcome.ofSelection at hvalue
  split at hvalue
  · rw [← List.map_append] at hvalue
    obtain ⟨rolled, hrolled, rfl⟩ := List.mem_map.mp hvalue
    rw [Text.fits_neg]
    exact hselects.fits hrolled
  · exact hselects.fits hvalue

end Formula

/-- An expression without the letter x is a formula that is rolled once. -/
theorem Repetition.read_of_not_mem {expression : Text} (h : 'x' ∉ Text.lower expression) :
    Repetition.read expression = .ok ⟨Text.lower expression, 1⟩ := by
  rw [Repetition.read, span_ne_eq_nil_iff.mpr ⟨h, rfl⟩]

/-- Rolling an expression that reads as a formula rolls the formula as often as it says. -/
theorem Roll.expression_eq {written : Text} {repetition : Repetition} {formula : Formula}
    (hread : Repetition.read written = .ok repetition)
    (hparse : Formula.parse repetition.formula = .ok formula) (ceiling : Int) :
    Roll.expression written ceiling = (do
      Roll.tell (.parsed repetition.formula formula)
      (formula.roll ceiling).times repetition.times.toNat) := by
  simp [Roll.expression, Roll.parse, hread, hparse]

@[simp] theorem Roll.fail_bind {α β : Type} (fault : Fault) (next : α → Roll β) :
    (Roll.fail fault >>= next) = Roll.fail fault := rfl

/-- An expression whose formula cannot be read does nothing but fail. -/
theorem Roll.expression_eq_fail {written : Text} {repetition : Repetition} {fault : Malformed}
    (hread : Repetition.read written = .ok repetition)
    (hparse : Formula.parse repetition.formula = .error fault) (ceiling : Int) :
    Roll.expression written ceiling = Roll.fail (.malformed fault) := by
  simp [Roll.expression, Roll.parse, hread, hparse]

end DiceRoll
