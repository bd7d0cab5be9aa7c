import DiceRoll.Proofs.Roll.Independence
import DiceRoll.Proofs.Roll.Repeated
import DiceRoll.Proofs.Roll.Success
import DiceRoll.Proofs.Roll.Writable

/-!
# Where endless sets are refused

The guard looks at a set when it is that set's turn. So a formula with endless sets is refused at
the first of them, after the sets before it were rolled, and a formula that is rolled again and
again is refused the first time or never. What keeps a formula from being refused, while enough is
drawn, is a set before the first endless one that is too long to be told of.
-/

namespace DiceRoll

variable {α β : Type} {ceiling : Int} {source rest : Source} {events : List Event}

/-- A run ends by refusing a set as endless. -/
def Run.Refuses (run : Run α) : Prop :=
  ∃ set cause, run.outcome = .error (.endless set cause)

/-- What is made of the value of a run does not matter to its refusal. -/
theorem Roll.refuses_map_iff (f : α → β) (roll : Roll α) (source : Source) :
    ((f <$> roll).run source).Refuses ↔ (roll.run source).Refuses := by
  unfold Run.Refuses
  rw [run_map]
  cases (roll.run source).outcome <;> simp [Except.map]

namespace DieSet

variable {set other : DieSet} {cause : Endless}

/-- What is told of a set, if its dice come to rest, is short enough to be written. -/
structure Told (set : DieSet) (ceiling : Int) (source : Source) : Prop where
  cap : (set.capEvents ceiling).all Event.isWritable = true
  dice : set.Tellable ceiling source

/-- A set is refused under its own name and before anything happens. -/
theorem run_roll_eq_endless
    (h : (set.roll ceiling).run source = ⟨.error (.endless other cause), rest, events⟩) :
    set = other ∧ set.endless? = some cause ∧ rest = source ∧ events = [] := by
  have hrolls := set.rolls_run_roll ceiling source
  rw [h] at hrolls
  cases hrolls with
  | endless guard => exact ⟨rfl, guard, rfl, rfl⟩

/-- A set whose dice come to rest but that cannot be told of ends the roll. -/
theorem exists_run_roll_eq_tooLong (guard : set.endless? = none)
    (complete : (set.reading ceiling source).complete = true)
    (hlong : ¬ set.Told ceiling source) :
    ∃ rest events, (set.roll ceiling).run source = ⟨.error .tooLong, rest, events⟩ := by
  have hrolls := set.rolls_run_roll ceiling source
  generalize (set.roll ceiling).run source = run at hrolls ⊢
  cases hrolls with
  | endless other => simp [guard] at other
  | exhausted _ _ incomplete => simp [complete] at incomplete
  | capUnwritable | unwritable => exact ⟨_, _, rfl⟩
  | done _ told _ short => exact absurd ⟨told, short⟩ hlong

/-- A set that passes the guard is not refused. -/
theorem meets_roll_of_guard (guard : set.endless? = none) (ceiling : Int) :
    Roll.Meets (fun _ => True) (set.roll ceiling) set.Selects
      (fun fault => ∀ other cause, fault ≠ .endless other cause) := by
  intro source _
  have hrolls := set.rolls_run_roll ceiling source
  generalize (set.roll ceiling).run source = run at hrolls ⊢
  cases hrolls with
  | endless other => simp [guard] at other
  | done _ _ _ short => exact ⟨⟨_, rfl⟩, short⟩
  | capUnwritable | exhausted | unwritable => exact fun _ _ => Fault.noConfusion

end DieSet

namespace Formula

variable {formula : Formula} {set : DieSet} {sets : List DieSet} {cause : DieSet.Endless}

/-! ### One set after the other -/

/-- As far as the sets pass the guard, enough is drawn for the dice of one after the other. -/
def EnoughDraws (ceiling : Int) : List DieSet → Source → Prop
  | [], _ => True
  | set :: sets, source =>
    set.endless? = none →
      (set.reading ceiling source).complete = true ∧
        EnoughDraws ceiling sets (set.reading ceiling source).rest

/-- As far as the sets pass the guard, one after the other can be told of. -/
def AllTold (ceiling : Int) : List DieSet → Source → Prop
  | [], _ => True
  | set :: sets, source =>
    set.endless? = none →
      set.Told ceiling source ∧ AllTold ceiling sets (set.reading ceiling source).rest

/-- Once a set has failed, the others are not rolled. -/
theorem run_mapM_roll_cons_of_error {fault : Fault}
    (h : (set.roll ceiling).run source = ⟨.error fault, rest, events⟩) (sets : List DieSet) :
    Roll.run ((set :: sets).mapM fun set => set.roll ceiling) source =
      ⟨.error fault, rest, events⟩ := by
  rw [List.mapM_cons, Roll.run_bind_of_error h]

/-- Once a set has given a selection, the others are rolled from what it left. -/
theorem run_mapM_roll_cons_of_ok {selection : Selection}
    (h : (set.roll ceiling).run source = ⟨.ok selection, rest, events⟩) (sets : List DieSet) :
    Roll.run ((set :: sets).mapM fun set => set.roll ceiling) source =
      let others := (selection :: ·) <$> (sets.mapM fun set => set.roll ceiling)
      { others.run rest with events := events ++ (others.run rest).events } := by
  rw [List.mapM_cons, Roll.run_bind_of_ok h]
  simp only [← map_eq_pure_bind]

/-- While enough is drawn, sets are refused when one of them is endless and those before it can be
told of. -/
theorem refuses_mapM_roll_iff (h : EnoughDraws ceiling sets source) :
    (Roll.run (sets.mapM fun set => set.roll ceiling) source).Refuses ↔
      (∃ set ∈ sets, set.endless?.isSome) ∧ AllTold ceiling sets source := by
  induction sets generalizing source with
  | nil => simp [Run.Refuses]
  | cons set sets ih =>
    rcases guard : set.endless? with _ | cause
    · obtain ⟨complete, hrest⟩ := h guard
      have hfirst : (∃ other ∈ set :: sets, other.endless?.isSome) ↔
          ∃ other ∈ sets, other.endless?.isSome := by simp [guard]
      rw [hfirst, AllTold]
      by_cases htold : set.Told ceiling source
      · have hrun := DieSet.run_roll_of_tellable ⟨guard, htold.cap, complete⟩ htold.dice
        have hothers := Roll.refuses_map_iff (set.selection ceiling source :: ·)
          (sets.mapM fun set => set.roll ceiling) (set.reading ceiling source).rest
        rw [run_mapM_roll_cons_of_ok hrun]
        exact hothers.trans ((ih hrest).trans
          (and_congr_right fun _ => ⟨fun hall _ => ⟨htold, hall⟩, fun hall => (hall guard).2⟩))
      · obtain ⟨rest, events, hrun⟩ := DieSet.exists_run_roll_eq_tooLong guard complete htold
        rw [run_mapM_roll_cons_of_error hrun]
        refine iff_of_false (by simp [Run.Refuses]) fun ⟨_, hall⟩ => htold (hall guard).1
    · rw [run_mapM_roll_cons_of_error (DieSet.run_roll_of_endless? guard ceiling source)]
      refine iff_of_true ⟨set, cause, rfl⟩ ⟨⟨set, List.mem_cons_self, by simp [guard]⟩, ?_⟩
      exact fun hnone => by simp [guard] at hnone

/-- The set that is refused is the first endless one, and what happened until then is that the sets
before it were rolled. -/
theorem exists_sets_before
    (h : Roll.run (sets.mapM fun set => set.roll ceiling) source =
      ⟨.error (.endless set cause), rest, events⟩) :
    ∃ before after, sets = before ++ set :: after ∧ (∀ other ∈ before, other.endless? = none) ∧
      set.endless? = some cause ∧
      ∃ selections, Roll.run (before.mapM fun set => set.roll ceiling) source =
        ⟨.ok selections, rest, events⟩ := by
  induction sets generalizing source rest events with
  | nil => simp at h
  | cons first sets ih =>
    rcases hrun : (first.roll ceiling).run source with ⟨fault | selection, middle, drawn⟩
    · rw [run_mapM_roll_cons_of_error hrun, Run.mk.injEq, Except.error.injEq] at h
      obtain ⟨rfl, rfl, rfl⟩ := h
      obtain ⟨rfl, guard, rfl, rfl⟩ := DieSet.run_roll_eq_endless hrun
      exact ⟨[], sets, rfl, by simp, guard, [], rfl⟩
    · rw [run_mapM_roll_cons_of_ok hrun] at h
      rcases hothers : Roll.run (sets.mapM fun set => set.roll ceiling) middle with
        ⟨fault | selections, last, more⟩
      · simp only [Roll.run_map, hothers, Except.map, Run.mk.injEq, Except.error.injEq] at h
        obtain ⟨rfl, rfl, rfl⟩ := h
        obtain ⟨before, after, rfl, hbefore, guard, selections, hselections⟩ := ih hothers
        have hfirst := (DieSet.settles_of_outcome_eq_ok (by rw [hrun])).1.guard
        refine ⟨first :: before, after, rfl, List.forall_mem_cons.mpr ⟨hfirst, hbefore⟩, guard,
          selection :: selections, ?_⟩
        rw [run_mapM_roll_cons_of_ok hrun]
        simp only [Roll.run_map, hselections, Except.map]
      · simp [Roll.run_map, hothers, Except.map] at h

/-- Sets that all give a selection have all passed the guard. -/
theorem endless?_eq_none_of_outcome_mapM {selections : List Selection}
    (h : (Roll.run (sets.mapM fun set => set.roll ceiling) source).outcome = .ok selections) :
    ∀ set ∈ sets, set.endless? = none := by
  induction sets generalizing source selections with
  | nil => simp
  | cons set sets ih =>
    obtain ⟨hsettles, -, others, hothers, -⟩ := outcome_mapM_roll_cons_eq_ok_iff.mp h
    exact List.forall_mem_cons.mpr ⟨hsettles.guard, ih hothers⟩

/-- What is told of sets that were read is short enough while the draws are in range. -/
theorem allTold_of_inRange (hceiling : Text.fits ceiling = true)
    (hsets : ∀ set ∈ sets, set.Expressible) (h : EnoughDraws ceiling sets source)
    (hrange : ∀ event ∈ (Roll.run (sets.mapM fun set => set.roll ceiling) source).events,
      event.InRange) : AllTold ceiling sets source := by
  induction sets generalizing source with
  | nil => trivial
  | cons set sets ih =>
    intro guard
    obtain ⟨complete, hrest⟩ := h guard
    obtain ⟨hset, hsets⟩ := List.forall_mem_cons.mp hsets
    have hcap := DieSet.isWritable_capEvents hset hceiling
    have hsettles : set.Settles ceiling source := ⟨guard, hcap, complete⟩
    have hdice : set.Tellable ceiling source := by
      by_contra hlong
      rw [run_mapM_roll_cons_of_error (DieSet.run_roll_of_not_tellable hsettles hlong)] at hrange
      exact hlong (DieSet.isWritable_rolled hset fun event hevent =>
        hrange event (List.mem_append_right _ hevent))
    refine ⟨⟨hcap, hdice⟩, ih hsets hrest fun event hevent => ?_⟩
    rw [run_mapM_roll_cons_of_ok (DieSet.run_roll_of_tellable hsettles hdice)] at hrange
    exact hrange event (List.mem_append_right _ hevent)

/-! ### Formulas -/

/-- Some set of a formula could never finish. -/
def HasEndless (formula : Formula) : Prop :=
  ∃ set ∈ formula.sets, set.endless?.isSome

/-- A set is the first endless one of a formula, and what happens when the formula is rolled is that
the sets before it are. -/
def StopsAt (formula : Formula) (ceiling : Int) (source : Source) (set : DieSet)
    (cause : DieSet.Endless) : Prop :=
  ∃ before after result, formula.sets = before ++ set :: after ∧
    (∀ other ∈ before, other.endless? = none) ∧ set.endless? = some cause ∧
    let run := (formula.roll ceiling).run source
    (Formula.roll { formula with sets := before } ceiling).run source =
      ⟨.ok result, run.source, run.events⟩

/-- A formula is refused exactly when it has an endless set, and for the first one that it has. -/
structure RefusedWhereEndless (formula : Formula) (ceiling : Int) (source : Source) : Prop where
  refuses_iff : ((formula.roll ceiling).run source).Refuses ↔ formula.HasEndless
  first (set : DieSet) (cause : DieSet.Endless) :
    ((formula.roll ceiling).run source).outcome = .error (.endless set cause) →
      formula.StopsAt ceiling source set cause

theorem refuses_roll_iff (h : EnoughDraws ceiling formula.sets source) :
    ((formula.roll ceiling).run source).Refuses ↔
      formula.HasEndless ∧ AllTold ceiling formula.sets source := by
  rw [roll_eq_map, Roll.refuses_map_iff]
  exact refuses_mapM_roll_iff h

theorem stopsAt_of_outcome
    (h : ((formula.roll ceiling).run source).outcome = .error (.endless set cause)) :
    formula.StopsAt ceiling source set cause := by
  unfold StopsAt
  rw [roll_eq_map, Roll.run_map] at h ⊢
  rcases hsets : (formula.rollSets ceiling).run source with ⟨fault | selections, rest, events⟩
  · simp only [hsets, Except.map, Except.error.injEq] at h
    subst h
    obtain ⟨before, after, heq, hbefore, guard, selections, hselections⟩ := exists_sets_before hsets
    refine ⟨before, after, Result.tally (before.zip selections) formula.modifiers, heq, hbefore,
      guard, ?_⟩
    rw [roll_eq_map, Roll.run_map, rollSets]
    simp only [hselections, Except.map]
  · simp [hsets, Except.map] at h

/-- A formula that gives a result has no endless set. -/
theorem not_hasEndless_of_outcome {result : Result}
    (h : ((formula.roll ceiling).run source).outcome = .ok result) : ¬ formula.HasEndless := by
  obtain ⟨selections, hselections, -⟩ := outcome_roll_eq_ok_iff.mp h
  intro ⟨set, hset, hendless⟩
  simp [endless?_eq_none_of_outcome_mapM hselections set hset] at hendless

/-- However often it is rolled, a formula without an endless set is not refused. -/
theorem not_refuses_times (h : ¬ formula.HasEndless) (n : Nat) (source : Source) :
    ¬ (((formula.roll ceiling).times n).run source).Refuses := by
  have hguard : ∀ set ∈ formula.sets, set.endless? = none := by
    intro set hset
    by_contra hendless
    exact h ⟨set, hset, Option.isSome_iff_ne_none.mpr hendless⟩
  have hroll := meets_roll_of fun set hset => DieSet.meets_roll_of_guard (hguard set hset) ceiling
  intro ⟨set, cause, hrefused⟩
  have hends := hroll.times n source fun _ _ => trivial
  rw [Run.Ends, hrefused] at hends
  exact hends set cause rfl

/-- When a formula that is rolled again and again is refused, it is refused the first time. -/
theorem run_times_of_refused {n : Nat}
    (h : (((formula.roll ceiling).times n).run source).outcome = .error (.endless set cause)) :
    1 ≤ n ∧ ∃ rest events,
      (formula.roll ceiling).run source = ⟨.error (.endless set cause), rest, events⟩ ∧
      ((formula.roll ceiling).times n).run source =
        ⟨.error (.endless set cause), rest, events⟩ := by
  cases n with
  | zero => simp [Roll.times] at h
  | succ n =>
    rcases hrun : (formula.roll ceiling).run source with ⟨fault | result, rest, events⟩
    · have htimes : ((formula.roll ceiling).times (n + 1)).run source =
          ⟨.error fault, rest, events⟩ := Roll.run_bind_of_error hrun
      rw [htimes] at h ⊢
      obtain rfl := Except.error.inj h
      exact ⟨Nat.le_add_left 1 n, rest, events, rfl, rfl⟩
    · have hnone := not_hasEndless_of_outcome (by rw [hrun])
      exact absurd ⟨set, cause, h⟩ (not_refuses_times hnone (n + 1) source)

theorem refuses_times_iff {n : Nat} :
    (((formula.roll ceiling).times n).run source).Refuses ↔
      1 ≤ n ∧ ((formula.roll ceiling).run source).Refuses := by
  constructor
  · intro ⟨set, cause, h⟩
    obtain ⟨hn, rest, events, hrun, -⟩ := run_times_of_refused h
    exact ⟨hn, set, cause, by rw [hrun]⟩
  · intro ⟨hn, set, cause, h⟩
    obtain ⟨n, rfl⟩ := Nat.exists_eq_add_of_le' hn
    rcases hrun : (formula.roll ceiling).run source with ⟨outcome, rest, events⟩
    rw [hrun] at h
    subst h
    exact ⟨set, cause, by rw [Roll.times, Roll.run_bind_of_error hrun]⟩

end Formula

/-! ### Expressions -/

namespace Roll

variable {written : Text} {repetition : Repetition} {formula : Formula}

/-- An expression is refused exactly when its formula has an endless set and is rolled at all. It is
refused when the formula is rolled for the first time, so none of its results is lost. -/
structure RefusedTheFirstTime (written : Text) (repetition : Repetition) (formula : Formula)
    (ceiling : Int) (source : Source) : Prop where
  refuses_iff : ((expression written ceiling).run source).Refuses ↔
    1 ≤ repetition.times ∧ formula.HasEndless
  first (set : DieSet) (cause : DieSet.Endless) :
    ((expression written ceiling).run source).outcome = .error (.endless set cause) →
      (∃ rest events,
        (formula.roll ceiling).run source = ⟨.error (.endless set cause), rest, events⟩ ∧
        (expression written ceiling).run source =
          ⟨.error (.endless set cause), rest, .parsed repetition.formula formula :: events⟩) ∧
      ∀ n results, (((formula.roll ceiling).times n).run source).outcome = .ok results → n = 0

/-- An expression tells of its formula before the formula is rolled. -/
theorem run_expression (hread : Repetition.read written = .ok repetition)
    (hparse : Formula.parse repetition.formula = .ok formula) (ceiling : Int) (source : Source) :
    (expression written ceiling).run source =
      let rolls := (formula.roll ceiling).times repetition.times.toNat
      { rolls.run source with
        events := .parsed repetition.formula formula :: (rolls.run source).events } := by
  have hwritable : (Event.parsed repetition.formula formula).isWritable = true :=
    List.all_eq_true.mpr (Formula.expressible_of_parse hparse).modifiers
  rw [expression_eq hread hparse, run_bind_of_ok (run_tell hwritable source)]
  rfl

theorem first_of_outcome_expression (hread : Repetition.read written = .ok repetition)
    (hparse : Formula.parse repetition.formula = .ok formula) {set : DieSet}
    {cause : DieSet.Endless}
    (h : ((expression written ceiling).run source).outcome = .error (.endless set cause)) :
    (∃ rest events,
      (formula.roll ceiling).run source = ⟨.error (.endless set cause), rest, events⟩ ∧
      (expression written ceiling).run source =
        ⟨.error (.endless set cause), rest, .parsed repetition.formula formula :: events⟩) ∧
    ∀ n results, (((formula.roll ceiling).times n).run source).outcome = .ok results → n = 0 := by
  rw [run_expression hread hparse] at h ⊢
  obtain ⟨-, rest, events, hrun, htimes⟩ := Formula.run_times_of_refused h
  refine ⟨⟨rest, events, hrun, by simp only [htimes]⟩, fun n results hresults => ?_⟩
  cases n with
  | zero => rfl
  | succ n => simp [times, run_bind_of_error hrun] at hresults

end Roll

namespace Formula

variable {formula : Formula}

/-- While enough is drawn, a formula and the expressions that repeat it are refused as they should
be exactly when the sets before the first endless one can be told of, which they can in range when
the formula was read and the ceiling can be written. -/
theorem refusedWhereEndless_iff (h : EnoughDraws ceiling formula.sets source) :
    (formula.RefusedWhereEndless ceiling source ↔
      (formula.HasEndless → AllTold ceiling formula.sets source)) ∧
    (∀ written repetition, Repetition.read written = .ok repetition →
      parse repetition.formula = .ok formula →
        (Roll.RefusedTheFirstTime written repetition formula ceiling source ↔
          (1 ≤ repetition.times → formula.HasEndless → AllTold ceiling formula.sets source))) ∧
    (formula.Expressible → Text.fits ceiling = true →
      (∀ event ∈ ((formula.roll ceiling).run source).events, event.InRange) →
        AllTold ceiling formula.sets source) := by
  have hrefuses := refuses_roll_iff h
  refine ⟨⟨fun hrefused hendless => ?_, fun htold => ⟨?_, fun _ _ => stopsAt_of_outcome⟩⟩,
    fun written repetition hread hparse => ⟨fun hrefused htimes hendless => ?_, fun htold =>
      ⟨?_, fun _ _ => Roll.first_of_outcome_expression hread hparse⟩⟩,
    fun hformula hceiling hrange => ?_⟩
  · exact (hrefuses.mp (hrefused.refuses_iff.mpr hendless)).2
  · exact hrefuses.trans ⟨And.left, fun hendless => ⟨hendless, htold hendless⟩⟩
  · have hrun := hrefused.refuses_iff.mpr ⟨htimes, hendless⟩
    rw [Roll.run_expression hread hparse] at hrun
    exact (hrefuses.mp (refuses_times_iff.mp hrun).2).2
  · have htimes : 1 ≤ repetition.times.toNat ↔ 1 ≤ repetition.times := by omega
    rw [Roll.run_expression hread hparse]
    refine refuses_times_iff.trans ?_
    rw [htimes, hrefuses]
    exact and_congr_right fun hle => ⟨And.left, fun hendless => ⟨hendless, htold hle hendless⟩⟩
  · rw [events_roll] at hrange
    exact allTold_of_inRange hceiling hformula.sets h hrange

/-- Of two dice, a die that is always rerolled and one more, the second set is refused after the
first has drawn, and so is the first of three repetitions. -/
theorem refused_after_two_dice :
    let formula : Formula :=
      { sets := [{ size := 6, signedCount := 2 },
          { size := 2, signedCount := 1, rerolled := Faces.ofList [1, 2] },
          { size := 8, signedCount := 1 }] }
    EnoughDraws 10 formula.sets (.ofDraws [3, 5]) ∧
      Repetition.read "2d6+d2r1r2+d8x3".toList = .ok ⟨"2d6+d2r1r2+d8".toList, 3⟩ ∧
      parse "2d6+d2r1r2+d8".toList = .ok formula ∧
      formula.RefusedWhereEndless 10 (.ofDraws [3, 5]) ∧
      Roll.RefusedTheFirstTime "2d6+d2r1r2+d8x3".toList ⟨"2d6+d2r1r2+d8".toList, 3⟩ formula 10
        (.ofDraws [3, 5]) := by
  intro formula
  have hread : Repetition.read "2d6+d2r1r2+d8x3".toList = .ok ⟨"2d6+d2r1r2+d8".toList, 3⟩ := by
    decide +kernel
  have hparse : parse "2d6+d2r1r2+d8".toList = .ok formula := by decide +kernel
  have henough : EnoughDraws 10 formula.sets (.ofDraws [3, 5]) := by
    refine fun _ => ⟨by decide, fun hnone => ?_⟩
    exact absurd hnone (by decide)
  have htold : AllTold 10 formula.sets (.ofDraws [3, 5]) := by
    refine fun _ => ⟨⟨by decide, DieSet.tellable_iff.mpr (by decide)⟩, fun hnone => ?_⟩
    exact absurd hnone (by decide)
  obtain ⟨hformula, hexpression, -⟩ := refusedWhereEndless_iff henough
  exact ⟨henough, hread, hparse, hformula.mpr fun _ => htold,
    (hexpression _ _ hread hparse).mpr fun _ _ => htold⟩

/-- A die that comes to rest, but whose minimum is too long to be told of, ends the roll before the
endless die behind it is refused. -/
theorem not_refused_behind_longMinimum :
    let formula : Formula :=
      { sets := [{ size := 6, signedCount := 1, minimum := longMinimum },
          { size := 1, signedCount := 1, exploding := true }] }
    EnoughDraws 10 formula.sets (.ofDraws [3]) ∧
      ¬ formula.RefusedWhereEndless 10 (.ofDraws [3]) := by
  intro formula
  have guard : DieSet.endless? { size := 6, signedCount := 1, minimum := longMinimum } = none := by
    decide
  have hendless : formula.HasEndless :=
    ⟨_, List.mem_cons_of_mem _ List.mem_cons_self, by decide⟩
  have henough : EnoughDraws 10 formula.sets (.ofDraws [3]) := by
    refine fun _ => ⟨by decide, fun hnone => ?_⟩
    exact absurd hnone (by decide)
  refine ⟨henough, fun hrefused => ?_⟩
  obtain ⟨-, htold⟩ := (refuses_roll_iff henough).mp (hrefused.refuses_iff.mpr hendless)
  have hvalues := (DieSet.tellable_iff.mp (htold guard).1.dice).2.2
  exact not_fits_max_longMinimum 3 (hvalues _ List.mem_cons_self)

end Formula

end DiceRoll
