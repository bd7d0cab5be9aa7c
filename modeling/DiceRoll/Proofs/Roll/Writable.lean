import DiceRoll.Proofs.Formula.Expressible
import DiceRoll.Proofs.Roll.Formula

/-!
# What is told in range is short enough to be written

A formula that was read is rolled under a ceiling that can be written. While its draws stay in range
every number told of can be written too, so the roll never ends for want of digits.
-/

namespace DiceRoll

namespace DieSet

variable {set : DieSet} {ceiling : Int} {source : Source}

theorem isWritable_capEvents (hset : set.Expressible) (hceiling : Text.fits ceiling = true) :
    (set.capEvents ceiling).all Event.isWritable = true :=
  all_isWritable_capEvents_iff.mpr fun _ => ⟨hceiling, hset.fits_count, hset.fits_size⟩

/-- A value from faces in range lies between zero and the greater of the size and the minimum. -/
theorem fits_of_mem_values (hset : set.Expressible) {faces : List Int}
    (hfaces : ∀ face ∈ faces, 1 ≤ face ∧ face ≤ set.size) {value : Int}
    (hvalue : value ∈ set.values faces) : Text.fits value = true := by
  obtain ⟨face, hface, rfl⟩ := List.mem_map.mp hvalue
  obtain ⟨hlo, hhi⟩ := hfaces face (List.mem_of_mem_filter hface)
  rcases le_total face set.minimum with hle | hle
  · rw [max_eq_right hle]
    exact hset.fits_minimum
  · rw [max_eq_left hle]
    exact Text.fits_of_natAbs_le hset.fits_size (by omega)

theorem isWritable_rolled (hset : set.Expressible)
    (hrange : ∀ event ∈ set.drawEvents ceiling source, event.InRange) :
    (Event.rolled set (set.selection ceiling source)).isWritable = true := by
  have hfaces : ∀ face ∈ (set.reading ceiling source).draws, 1 ≤ face ∧ face ≤ set.size :=
    fun face hface => hrange _ (List.mem_map_of_mem hface)
  have hvalues : ∀ value ∈ (set.selection ceiling source).kept ++
      (set.selection ceiling source).dropped, Text.fits value = true := fun value hvalue =>
    fits_of_mem_values hset hfaces ((Selection.kept_append_dropped_perm _ _).mem_iff.mp hvalue)
  simp only [Event.isWritable, Event.numbers, List.all_cons, hset.fits_size, hset.fits_signedCount,
    Bool.true_and, List.all_eq_true]
  exact hvalues

/-- Rolling a set in range does not end for want of digits. -/
theorem meets_roll_inRange (hset : set.Expressible) (hceiling : Text.fits ceiling = true) :
    Roll.Meets Event.InRange (set.roll ceiling) set.Selects (· ≠ .tooLong) := by
  intro source hevents
  have hrolls := set.rolls_run_roll ceiling source
  generalize (set.roll ceiling).run source = run at hrolls hevents ⊢
  cases hrolls with
  | endless | exhausted => exact Fault.noConfusion
  | done _ _ _ short => exact ⟨⟨_, rfl⟩, short⟩
  | capUnwritable _ long =>
    rw [isWritable_capEvents hset hceiling] at long
    cases long
  | unwritable _ _ _ long =>
    rw [isWritable_rolled hset fun event hevent => hevents event (List.mem_append_right _ hevent)]
      at long
    cases long

end DieSet

theorem Formula.meets_roll_inRange {formula : Formula} {ceiling : Int}
    (hformula : formula.Expressible) (hceiling : Text.fits ceiling = true) :
    Roll.Meets Event.InRange (formula.roll ceiling) formula.Gives (· ≠ .tooLong) :=
  meets_roll_of fun set hset => DieSet.meets_roll_inRange (hformula.sets set hset) hceiling

namespace Roll

variable {allowed : Event → Prop} {bad : Fault → Prop}

/-- Reading a formula does not end for want of digits. -/
theorem meets_parse (hbad : ∀ fault, bad (.malformed fault)) (written : Text) :
    Meets allowed (parse written) Formula.Expressible bad := by
  refine (meets_ofRead hbad).bind fun formula hformula => ?_
  have hexpressible := Formula.expressible_of_parse hformula
  have htell : Meets allowed (tell (.parsed written formula))
      (fun _ => (Event.parsed written formula).isWritable = true) bad := by
    refine meets_tell fun hlong => ?_
    simp [Event.isWritable, Event.numbers, List.all_eq_true.mpr hexpressible.modifiers] at hlong
  exact htell.bind fun _ _ => meets_pure hexpressible

/-- What an expression gives comes from a formula that was read. -/
theorem meets_expression_of {ceiling : Int} (hbad : ∀ fault, bad (.malformed fault))
    (hroll : ∀ formula : Formula, formula.Expressible →
      Meets allowed (formula.roll ceiling) formula.Gives bad) (written : Text) :
    Meets allowed (expression written ceiling)
      (fun results => ∀ result ∈ results,
        ∃ formula : Formula, formula.Expressible ∧ formula.Gives result) bad := by
  refine (meets_ofRead hbad).bind fun repetition _ => (meets_parse hbad _).bind fun formula h => ?_
  refine ((hroll formula h).times _).mono fun results hresults => ?_
  exact fun result hresult => ⟨formula, h, hresults result hresult⟩

/-- An expression that is rolled in range, under a ceiling that can be written, does not end for
want of digits. -/
theorem expression_ne_tooLong {ceiling : Int} (hceiling : Text.fits ceiling = true)
    {written : Text} {source : Source}
    (hrange : ∀ event ∈ ((expression written ceiling).run source).events, event.InRange) :
    ((expression written ceiling).run source).outcome ≠ .error .tooLong := by
  intro htooLong
  have hmeets : Meets Event.InRange (expression written ceiling) _ (· ≠ .tooLong) :=
    meets_expression_of (fun _ => Fault.noConfusion)
      (fun _ hformula => Formula.meets_roll_inRange hformula hceiling) written
  have hends := hmeets source hrange
  rw [Run.Ends, htooLong] at hends
  exact hends rfl

/-- Each result of an expression is one that a formula that was read can give. -/
theorem exists_gives_of_expression {ceiling : Int} {written : Text} {source : Source}
    {results : List Result}
    (h : ((expression written ceiling).run source).outcome = .ok results) :
    ∀ result ∈ results, ∃ formula : Formula, formula.Expressible ∧ formula.Gives result :=
  (meets_expression_of (fun _ => trivial) (fun formula _ => formula.meets_roll ceiling)
    written).of_outcome_eq_ok h

end Roll

end DiceRoll
