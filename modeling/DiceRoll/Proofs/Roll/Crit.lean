import DiceRoll.Formula.Parse
import DiceRoll.Proofs.Roll.Range

/-!
# Critical successes and fumbles

The kept dice of all sets decide together, each by its size and by its value without the sign of its
set. A roll is a critical success when no kept die is below its greatest face, a fumble when none is
above one, and neither of the two when it would be both. Clearing these verdicts set by set comes to
the same.

Dice with one face are at their greatest face and at one whenever they come up. They tell the
verdicts apart all the same where their minimum raises them above their face.
-/

namespace DiceRoll

/-! ### Verdicts set by set -/

/-- What the sets judged so far leave open. -/
structure Verdict where
  crit : Bool
  fumble : Bool

namespace Verdict

/-- A set clears the critical success where it keeps a die below its greatest face, and the fumble
where it keeps one above one. -/
def after (verdict : Verdict) (rolled : DieSet × Selection) : Verdict where
  crit := verdict.crit && !rolled.2.kept.any (· < rolled.1.size)
  fumble := verdict.fumble && !rolled.2.kept.any (1 < ·)

/-- Both at once is neither. -/
def settle (verdict : Verdict) : Verdict :=
  if verdict.crit && verdict.fumble then ⟨false, false⟩ else verdict

/-- Whatever the verdict was before, the kept dice of the sets clear it. -/
theorem foldl_after (rolled : List (DieSet × Selection)) (verdict : Verdict) :
    rolled.foldl after verdict =
      { crit := verdict.crit && (Result.keptDice rolled).all fun (value, size) => size ≤ value
        fumble := verdict.fumble && (Result.keptDice rolled).all fun (value, _) => value ≤ 1 } := by
  induction rolled generalizing verdict with
  | nil => simp [Result.keptDice]
  | cons first rest ih =>
    have hsplit : Result.keptDice (first :: rest) =
        first.2.kept.map (·, first.1.size) ++ Result.keptDice rest := List.flatMap_cons
    rw [List.foldl_cons, ih, hsplit]
    simp only [after, List.all_append, List.all_map, Function.comp_def, Bool.and_assoc,
      List.not_any_eq_all_not, ← decide_not, not_lt]

end Verdict

namespace Result

/-- The flags of a result are what judging set by set comes to. -/
theorem settle_foldl_after (rolled : List (DieSet × Selection)) (modifiers : List Int) :
    (rolled.foldl Verdict.after ⟨true, true⟩).settle =
      ⟨(tally rolled modifiers).isCrit, (tally rolled modifiers).isFumble⟩ := by
  rw [Verdict.foldl_after, Verdict.settle]
  simp only [tally, Bool.true_and]
  generalize (keptDice rolled).all _ = allGreatest
  generalize (keptDice rolled).all _ = allOne
  cases allGreatest <;> cases allOne <;> rfl

end Result

/-! ### Verdicts by dice -/

/-- The kept values without the sign of their set. -/
def Outcome.unsigned (outcome : Outcome) : List Int :=
  if outcome.negative then outcome.kept.map (-·) else outcome.kept

theorem Outcome.unsigned_ofSelection (set : DieSet) (selection : Selection) :
    (ofSelection set selection).unsigned = selection.kept := by
  unfold ofSelection unsigned
  split <;> simp

namespace Result

variable {sets : List DieSet} {selections : List Selection} {modifiers : List Int}

/-- The kept dice of a result, each as its value without the sign of its set, and its size. -/
def shownDice (result : Result) (sets : List DieSet) : List (Int × Int) :=
  (sets.zip result.outcomes).flatMap fun (set, outcome) => outcome.unsigned.map (·, set.size)

/-- A result shows the dice that were kept. -/
theorem shownDice_tally (h : selections.length = sets.length) :
    (tally (sets.zip selections) modifiers).shownDice sets = keptDice (sets.zip selections) := by
  simp only [shownDice, tally, keptDice]
  induction sets generalizing selections with
  | nil => rfl
  | cons set sets ih =>
    obtain ⟨selection, selections, rfl⟩ := List.exists_cons_of_length_eq_add_one h
    have hrest := ih (by simpa using h)
    simp only [List.zip_cons_cons, List.map_cons, List.flatMap_cons, hrest,
      Outcome.unsigned_ofSelection]

theorem isCrit_tally_iff (rolled : List (DieSet × Selection)) (modifiers : List Int) :
    (tally rolled modifiers).isCrit = true ↔
      (∀ die ∈ keptDice rolled, die.2 ≤ die.1) ∧ ∃ die ∈ keptDice rolled, 1 < die.1 := by
  simp [tally]

theorem isFumble_tally_iff (rolled : List (DieSet × Selection)) (modifiers : List Int) :
    (tally rolled modifiers).isFumble = true ↔
      (∀ die ∈ keptDice rolled, die.1 ≤ 1) ∧ ∃ die ∈ keptDice rolled, die.1 < die.2 := by
  simp [tally]

/-- The flags of a result, given the dice that it kept. -/
structure Judged (result : Result) (dice : List (Int × Int)) : Prop where
  /-- A critical success keeps no die below its greatest face, and some die above one. -/
  isCrit_iff : result.isCrit = true ↔ (∀ die ∈ dice, die.2 ≤ die.1) ∧ ∃ die ∈ dice, 1 < die.1
  /-- A fumble keeps no die above one, and some die below its greatest face. -/
  isFumble_iff : result.isFumble = true ↔ (∀ die ∈ dice, die.1 ≤ 1) ∧ ∃ die ∈ dice, die.1 < die.2
  not_both : ¬ (result.isCrit = true ∧ result.isFumble = true)
  of_nothing_kept : (∀ outcome ∈ result.outcomes, outcome.kept = []) →
    result.isCrit = false ∧ result.isFumble = false

/-- Where nothing is kept, no die is shown. -/
theorem shownDice_eq_nil {result : Result} (h : ∀ outcome ∈ result.outcomes, outcome.kept = [])
    (sets : List DieSet) : result.shownDice sets = [] := by
  rw [shownDice, List.flatMap_eq_nil_iff]
  intro (set, outcome) hmem
  have hkept := h outcome (List.of_mem_zip hmem).2
  simp [Outcome.unsigned, hkept]

end Result

namespace Formula

variable {formula : Formula} {ceiling : Int} {source : Source} {result : Result}

/-- A formula is judged by the dice that its result shows. -/
theorem judged_shownDice (h : ((formula.roll ceiling).run source).outcome = .ok result) :
    result.Judged (result.shownDice formula.sets) := by
  obtain ⟨selections, hselections, rfl⟩ := outcome_roll_eq_ok_iff.mp h
  have hdice := @Result.shownDice_tally formula.sets selections formula.modifiers
    (length_selections hselections)
  have hcrit := Result.isCrit_tally_iff (formula.sets.zip selections) formula.modifiers
  have hfumble := Result.isFumble_tally_iff (formula.sets.zip selections) formula.modifiers
  rw [← hdice] at hcrit hfumble
  generalize Result.tally (formula.sets.zip selections) formula.modifiers = result at *
  refine ⟨hcrit, hfumble, fun hboth => ?_, fun hnothing => ?_⟩
  -- A die above one tells against the fumble.
  · obtain ⟨die, hdie, habove⟩ := (hcrit.mp hboth.1).2
    have hone := (hfumble.mp hboth.2).1 die hdie
    omega
  · rw [Result.shownDice_eq_nil hnothing] at hcrit hfumble
    simpa using And.intro hcrit hfumble

/-- The flags say how the kept dice of all sets stand, each by its value without the sign of its set
and by its size. Results that show the same dice have the same flags, whatever they dropped, however
their sets were signed and whatever was added to them. -/
theorem flags_eq_of_shownDice (h : ((formula.roll ceiling).run source).outcome = .ok result) :
    result.Judged (result.shownDice formula.sets) ∧
    ∀ (other : Formula) (ceiling' : Int) (source' : Source) (result' : Result),
      ((other.roll ceiling').run source').outcome = .ok result' →
      (∀ die, die ∈ result'.shownDice other.sets ↔ die ∈ result.shownDice formula.sets) →
      result'.isCrit = result.isCrit ∧ result'.isFumble = result.isFumble := by
  have hjudged := judged_shownDice h
  refine ⟨hjudged, fun other ceiling' source' result' h' hsame => ?_⟩
  have hjudged' := judged_shownDice h'
  constructor
  · rw [Bool.eq_iff_iff, hjudged.isCrit_iff, hjudged'.isCrit_iff]
    simp only [hsame]
  · rw [Bool.eq_iff_iff, hjudged.isFumble_iff, hjudged'.isFumble_iff]
    simp only [hsame]

/-- A six and a subtracted eight are a critical success, whatever else is dropped or added. -/
theorem isCrit_six_less_eight :
    let formula : Formula :=
      { sets := [{ size := 6, signedCount := 2, drop := 1 }, { size := 8, signedCount := -1 }]
        modifiers := [3] }
    let result : Result :=
      { outcomes := [{ kept := [6], dropped := [2] }, { kept := [-8], negative := true }]
        modifiers := [3]
        total := 1
        isCrit := true }
    ((formula.roll 10).run (.ofDraws [2, 6, 8])).outcome = .ok result ∧
      result.Judged (result.shownDice formula.sets) ∧
      result.shownDice formula.sets = [(6, 6), (8, 8)] := by
  intro formula result
  have hroll : ((formula.roll 10).run (.ofDraws [2, 6, 8])).outcome = .ok result := by
    subst formula result
    cbv
  exact ⟨hroll, (flags_eq_of_shownDice hroll).1, rfl⟩

/-! ### Dice with one face -/

/-- What the kept dice of each set satisfy together, all kept dice satisfy. -/
theorem forall_keptDice_iff {good : DieSet → Selection → Prop} {p : Int × Int → Prop}
    {condition : DieSet → Prop}
    (h : ∀ set selection, good set selection →
      ((∀ value ∈ selection.kept, p (value, set.size)) ↔ condition set))
    {sets : List DieSet} {selections : List Selection} (hgood : List.Forall₂ good sets selections) :
    (∀ die ∈ Result.keptDice (sets.zip selections), p die) ↔ ∀ set ∈ sets, condition set := by
  induction hgood with
  | nil => simp [Result.keptDice]
  | @cons set selection sets selections hfirst _ ih =>
    have hsplit : Result.keptDice ((set :: sets).zip (selection :: selections)) =
        selection.kept.map (·, set.size) ++ Result.keptDice (sets.zip selections) :=
      List.flatMap_cons
    rw [hsplit, List.forall_mem_append, List.forall_mem_map, h set selection hfirst, ih,
      List.forall_mem_cons]

end Formula

namespace DieSet

variable {set : DieSet} {ceiling value : Int} {selection : Selection}

/-- A set of one-faced dice that gives a selection does not explode or reroll its face. -/
theorem SelectsInRange.plain_of_size_eq_one (h : set.SelectsInRange ceiling selection)
    (hsize : set.size = 1) : set.Plain := by
  have hguard : ¬ ∀ face, 1 ≤ face → face ≤ set.size → set.stops face = false := by
    rw [← endless?_isSome_iff (by omega), h.guard]
    simp
  have hstops : set.stops 1 = true := by
    by_contra hnot
    refine hguard fun face hlo hhi => ?_
    obtain rfl : face = 1 := by omega
    simpa using hnot
  obtain ⟨hcounts, hexplodes⟩ := stops_eq_true_iff.mp hstops
  refine ⟨?_, by omega, 1, mem_countedFaces.mpr ⟨by omega, hcounts⟩⟩
  simpa [hsize] using hexplodes

/-- One-faced dice count for a one, or for their minimum where it is greater. -/
theorem SelectsInRange.eq_max_of_size_eq_one (h : set.SelectsInRange ceiling selection)
    (hsize : set.size = 1) (hvalue : value ∈ selection.kept) : value = max 1 set.minimum := by
  obtain ⟨face, hface, hmax⟩ := h.exists_countedFace (List.mem_append_left _ hvalue)
  have hrange := (mem_countedFaces.mp hface).1
  omega

/-- No kept one-faced die is above one exactly when the minimum is not, or none is kept. -/
theorem SelectsInRange.forall_kept_le_one_iff (h : set.SelectsInRange ceiling selection)
    (hsize : set.size = 1) :
    (∀ value ∈ selection.kept, value ≤ 1) ↔ set.minimum ≤ 1 ∨ set.keptCount ceiling = 0 := by
  have hlength := h.length_kept (h.plain_of_size_eq_one hsize)
  constructor
  · intro hall
    rcases Nat.eq_zero_or_pos (set.keptCount ceiling) with hzero | hpos
    · exact .inr hzero
    · obtain ⟨value, hvalue⟩ := List.exists_mem_of_length_pos (hlength ▸ hpos)
      have hle := hall value hvalue
      rw [h.eq_max_of_size_eq_one hsize hvalue] at hle
      omega
  · intro hcondition value hvalue
    have hpos := List.length_pos_of_mem hvalue
    rw [h.eq_max_of_size_eq_one hsize hvalue]
    omega

end DieSet

namespace Formula

variable {formula : Formula} {ceiling : Int} {source : Source} {result : Result}

/-- One-faced dice in range are neither a critical success nor a fumble exactly when no set keeps
dice that its minimum raises above their face. -/
theorem no_flag_iff_of_size_eq_one (hsize : ∀ set ∈ formula.sets, set.size = 1)
    (h : formula.RollsInRange ceiling source result) :
    result.isCrit = false ∧ result.isFumble = false ↔
      ∀ set ∈ formula.sets, set.minimum ≤ 1 ∨ set.keptCount ceiling = 0 := by
  obtain ⟨selections, hselections, rfl⟩ := h.exists_selections
  have hboth := (List.forall₂_and_left formula.sets selections).mpr ⟨hsize, hselections⟩
  have hgreatest : (∀ die ∈ Result.keptDice (formula.sets.zip selections), die.2 ≤ die.1) ↔
      ∀ set ∈ formula.sets, True := by
    apply forall_keptDice_iff _ hboth
    intro set selection ⟨hset, hselects⟩
    refine iff_of_true (fun value hvalue => ?_) trivial
    rw [hselects.eq_max_of_size_eq_one hset hvalue, hset]
    exact le_max_left _ _
  have hone : (∀ die ∈ Result.keptDice (formula.sets.zip selections), die.1 ≤ 1) ↔
      ∀ set ∈ formula.sets, set.minimum ≤ 1 ∨ set.keptCount ceiling = 0 :=
    forall_keptDice_iff (fun _ _ ⟨hset, hselects⟩ => hselects.forall_kept_le_one_iff hset) hboth
  rw [← hone, ← Bool.not_eq_true, ← Bool.not_eq_true, Result.isCrit_tally_iff,
    Result.isFumble_tally_iff]
  push Not
  constructor
  · intro hflags
    exact hflags.1 (hgreatest.mpr fun _ _ => trivial)
  · intro hlow
    exact ⟨fun _ => hlow, fun _ => hgreatest.mpr fun _ _ => trivial⟩

/-- Three one-faced dice, less one with a minimum that is dropped, have no flag. -/
theorem no_flag_of_dropped_minimum :
    let formula : Formula :=
      { sets := [{ size := 1, signedCount := 3, minimum := 1 },
          { size := 1, signedCount := -1, drop := 1, minimum := 7 }] }
    let result : Result :=
      { outcomes := [{ kept := [1, 1, 1] }, { kept := [], dropped := [-7], negative := true }]
        total := 3 }
    parse "3d1m1-d1d1m7".toList = .ok formula ∧ (∀ set ∈ formula.sets, set.size = 1) ∧
      formula.RollsInRange 10 (.ofDraws [1, 1, 1, 1]) result ∧
      result.isCrit = false ∧ result.isFumble = false := by
  intro formula result
  have hparse : parse "3d1m1-d1d1m7".toList = .ok formula := by decide +kernel
  have hsize : ∀ set ∈ formula.sets, set.size = 1 := by simp [formula]
  have hrun : (formula.roll 10).run (.ofDraws [1, 1, 1, 1]) = ⟨.ok result, .spent,
      [.drawn 1 1 1, .drawn 1 1 1, .drawn 1 1 1,
        .rolled { size := 1, signedCount := 3, minimum := 1 } ⟨[1, 1, 1], []⟩, .drawn 1 1 1,
        .rolled { size := 1, signedCount := -1, drop := 1, minimum := 7 } ⟨[], [7]⟩]⟩ := by
    subst formula result
    cbv
  have hrolls := rollsInRange_of_run_eq hrun (by simp [Event.InRange])
  have hcondition : ∀ set ∈ formula.sets, set.minimum ≤ 1 ∨ set.keptCount 10 = 0 := by decide
  exact ⟨hparse, hsize, hrolls, (no_flag_iff_of_size_eq_one hsize hrolls).mpr hcondition⟩

/-- A one-faced die with a minimum of two is a critical success. -/
theorem isCrit_of_raised_one :
    let formula : Formula := { sets := [{ size := 1, signedCount := 1, minimum := 2 }] }
    let result : Result := { outcomes := [{ kept := [2] }], total := 2, isCrit := true }
    parse "d1m2".toList = .ok formula ∧ (∀ set ∈ formula.sets, set.size = 1) ∧
      formula.RollsInRange 10 (.ofDraws [1]) result ∧ result.isCrit = true := by
  intro formula result
  have hrun : (formula.roll 10).run (.ofDraws [1]) = ⟨.ok result, .spent,
      [.drawn 1 1 1, .rolled { size := 1, signedCount := 1, minimum := 2 } ⟨[2], []⟩]⟩ := by
    subst formula result
    cbv
  exact ⟨by decide +kernel, by simp [formula],
    rollsInRange_of_run_eq hrun (by simp [Event.InRange]), rfl⟩

end Formula

end DiceRoll
