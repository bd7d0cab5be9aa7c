import DiceRoll.Proofs.Roll.Alike
import DiceRoll.Proofs.Roll.Guard
import DiceRoll.Proofs.Roll.Tally

/-!
# Rolls that succeed

A set gives a selection exactly when its dice come to rest and what is told of them can be written,
and a formula gives a result exactly when this happens to one set after the other. When all draws
are in range as well, each set has made its selection from faces of its die, of which as many stop
as it has dice to roll.
-/

namespace DiceRoll

variable {ceiling : Int} {source : Source}

/-- A sequence gives a value when its first part gives one from which its second part goes on to
give it. -/
theorem Roll.outcome_bind_eq_ok_iff {α β : Type} {roll : Roll α} {next : α → Roll β} {value : β} :
    ((roll >>= next).run source).outcome = .ok value ↔
      ∃ middle, (roll.run source).outcome = .ok middle ∧
        ((next middle).run (roll.run source).source).outcome = .ok value := by
  rw [run_bind]
  rcases roll.run source with ⟨fault | middle, rest, events⟩
  · simp
  · simp

namespace DieSet

variable {set : DieSet} {selection : Selection}

/-- A set gives a selection when its dice come to rest and can be told of. -/
theorem outcome_roll_eq_ok_iff :
    ((set.roll ceiling).run source).outcome = .ok selection ↔
      set.Settles ceiling source ∧ set.Tellable ceiling source ∧
        selection = set.selection ceiling source := by
  constructor
  · intro h
    obtain ⟨hsettles, htell, -⟩ := settles_of_outcome_eq_ok h
    rw [run_roll_of_tellable hsettles htell] at h
    exact ⟨hsettles, htell, (Except.ok.inj h).symm⟩
  · intro ⟨hsettles, htell, hselection⟩
    rw [run_roll_of_tellable hsettles htell, hselection]

/-- A selection that the set gives under a ceiling when all draws show faces of its die. -/
structure SelectsInRange (set : DieSet) (ceiling : Int) (selection : Selection) : Prop where
  guard : set.endless? = none
  told : (set.capEvents ceiling).all Event.isWritable = true
  written : (Event.rolled set selection).isWritable = true
  drawn : ∃ faces, set.InRange faces ∧ faces.countP set.stops = set.diceUnder ceiling ∧
    selection = Selection.ofDrop set.drop (set.values faces)

theorem meets_roll_selectsInRange (set : DieSet) (ceiling : Int) :
    Roll.Meets Event.InRange (set.roll ceiling) (set.SelectsInRange ceiling) fun _ => True := by
  intro source hevents
  have hrolls := set.rolls_run_roll ceiling source
  generalize (set.roll ceiling).run source = run at hrolls hevents ⊢
  cases hrolls with
  | endless | capUnwritable | exhausted | unwritable => exact trivial
  | done guard told complete short =>
    have hfaces : set.InRange (set.reading ceiling source).draws := by
      intro face hface
      have hdrawn : Event.drawn 1 set.size face ∈ set.drawEvents ceiling source :=
        List.mem_map_of_mem hface
      exact hevents _ (List.mem_append_left _ (List.mem_append_right _ hdrawn))
    exact ⟨guard, told, short, _, hfaces, Source.countP_draws_read complete, rfl⟩

end DieSet

namespace Formula

variable {formula : Formula} {result : Result}

/-- The sets of a formula give selections when the first of them does and, from what it leaves of
the source, the others do. -/
theorem outcome_mapM_roll_cons_eq_ok_iff {set : DieSet} {sets : List DieSet}
    {selections : List Selection} :
    (Roll.run ((set :: sets).mapM fun set => set.roll ceiling) source).outcome = .ok selections ↔
      set.Settles ceiling source ∧ set.Tellable ceiling source ∧
        ∃ others, (Roll.run (sets.mapM fun set => set.roll ceiling)
            (set.reading ceiling source).rest).outcome = .ok others ∧
          selections = set.selection ceiling source :: others := by
  rw [List.mapM_cons, Roll.outcome_bind_eq_ok_iff]
  simp only [Roll.outcome_bind_eq_ok_iff, Roll.run_pure, Except.ok.injEq]
  constructor
  · intro ⟨selection, hselection, others, hothers, hcons⟩
    have hsource := (DieSet.settles_of_outcome_eq_ok hselection).2.2
    obtain ⟨hsettles, htell, rfl⟩ := DieSet.outcome_roll_eq_ok_iff.mp hselection
    rw [hsource] at hothers
    exact ⟨hsettles, htell, others, hothers, hcons.symm⟩
  · intro ⟨hsettles, htell, others, hothers, hcons⟩
    have hselection := DieSet.outcome_roll_eq_ok_iff.mpr ⟨hsettles, htell, rfl⟩
    rw [← (DieSet.settles_of_outcome_eq_ok hselection).2.2] at hothers
    exact ⟨_, hselection, others, hothers, hcons.symm⟩

/-- A formula gives the result of what its sets give. -/
theorem outcome_roll_eq_ok_iff :
    ((formula.roll ceiling).run source).outcome = .ok result ↔
      ∃ selections, (Roll.run (formula.sets.mapM fun set => set.roll ceiling) source).outcome =
          .ok selections ∧
        result = Result.tally (formula.sets.zip selections) formula.modifiers := by
  rw [roll, Roll.outcome_bind_eq_ok_iff]
  simp only [Roll.run_pure, Except.ok.injEq, eq_comm]
  rfl

/-- Rolling a formula gives a result, and all draws are in range. -/
structure RollsInRange (formula : Formula) (ceiling : Int) (source : Source) (result : Result) :
    Prop where
  inRange : ∀ event ∈ ((formula.roll ceiling).run source).events, event.InRange
  outcome : ((formula.roll ceiling).run source).outcome = .ok result

theorem rollsInRange_of_run_eq {rest : Source} {events : List Event}
    (h : (formula.roll ceiling).run source = ⟨.ok result, rest, events⟩)
    (hrange : ∀ event ∈ events, event.InRange) : formula.RollsInRange ceiling source result :=
  ⟨by rwa [h], by rw [h]⟩

/-- In range, a result comes from selections in range. -/
theorem RollsInRange.exists_selections (h : formula.RollsInRange ceiling source result) :
    ∃ selections, List.Forall₂ (fun set => set.SelectsInRange ceiling) formula.sets selections ∧
      result = Result.tally (formula.sets.zip selections) formula.modifiers :=
  (meets_roll_of_sets fun set _ => set.meets_roll_selectsInRange ceiling).good_of_events h.inRange
    h.outcome

end Formula

/-- What holds of selections from sets holds of the outcomes that they give. -/
theorem Result.forall₂_outcomes_tally {good : DieSet → Selection → Prop}
    {good' : DieSet → Outcome → Prop}
    (h : ∀ set selection, good set selection → good' set (Outcome.ofSelection set selection))
    {sets : List DieSet} {selections : List Selection} (hgood : List.Forall₂ good sets selections)
    (modifiers : List Int) :
    List.Forall₂ good' sets (tally (sets.zip selections) modifiers).outcomes := by
  induction hgood with
  | nil => exact .nil
  | cons hfirst _ ih => exact .cons (h _ _ hfirst) ih

end DiceRoll
