import DiceRoll.Proofs.Roll.DieSet
import DiceRoll.Proofs.Roll.Loops

/-!
# The guard against endless sets

The guard counts the rerolled faces that a die has. The count says exactly whether some face stops:
a set is refused when none of its faces does, and no other set is.
-/

namespace DiceRoll.DieSet

variable {set : DieSet}

theorem stops_eq_false_iff {face : Int} :
    set.stops face = false ↔ face ∈ set.rerolled ∨ set.exploding = true ∧ face = set.size := by
  simp [stops, explodes, or_iff_not_imp_left]

theorem stops_eq_true_iff {face : Int} :
    set.stops face = true ↔ face ∉ set.rerolled ∧ ¬ (set.exploding = true ∧ face = set.size) := by
  rw [← not_iff_not, Bool.not_eq_true, stops_eq_false_iff]
  tauto

/-- The rerolled faces are counted without repetition. -/
theorem length_rerolledFaces :
    set.rerolledFaces.length = ((Finset.Icc 1 set.size).filter (· ∈ set.rerolled)).card := by
  have hnodup : set.rerolledFaces.Nodup :=
    (set.rerolled.ascending.imp fun h => h.ne).filter _
  have hmembers : set.rerolledFaces.toFinset =
      (Finset.Icc 1 set.size).filter (· ∈ set.rerolled) := by
    ext face
    simp only [rerolledFaces, List.mem_toFinset, List.mem_filter, Faces.mem_toList,
      Bool.and_eq_true, decide_eq_true_eq, Finset.mem_filter, Finset.mem_Icc]
    exact and_comm
  rw [← hmembers, List.toFinset_card_of_nodup hnodup]

/-- As many faces are rerolled as there are up to a bound when all of them are. -/
theorem card_rerolled_eq_iff {bound : Int} (h : 0 ≤ bound) :
    (((Finset.Icc 1 bound).filter (· ∈ set.rerolled)).card : Int) = bound ↔
      ∀ face, 1 ≤ face → face ≤ bound → face ∈ set.rerolled := by
  have hcard : ((Finset.Icc 1 bound).card : Int) = bound := by
    rw [Int.card_Icc]
    omega
  constructor
  · intro heq face hlo hhi
    have hall := Finset.card_filter_eq_iff.mp (Int.ofNat_inj.mp (heq.trans hcard.symm))
    exact hall face (Finset.mem_Icc.mpr ⟨hlo, hhi⟩)
  · intro hall
    rw [Finset.filter_true_of_mem fun face hface =>
      hall face (Finset.mem_Icc.mp hface).1 (Finset.mem_Icc.mp hface).2]
    exact hcard

/-- Without the greatest face, the faces are those below it. -/
theorem filter_rerolled_of_not_mem (h : set.size ∉ set.rerolled) :
    (Finset.Icc 1 set.size).filter (· ∈ set.rerolled) =
      (Finset.Icc 1 (set.size - 1)).filter (· ∈ set.rerolled) := by
  ext face
  simp only [Finset.mem_filter, Finset.mem_Icc]
  constructor
  · rintro ⟨⟨hlo, hhi⟩, hmem⟩
    have hne : face ≠ set.size := fun heq => h (heq ▸ hmem)
    exact ⟨⟨hlo, by omega⟩, hmem⟩
  · rintro ⟨⟨hlo, hhi⟩, hmem⟩
    exact ⟨⟨hlo, by omega⟩, hmem⟩

/-- Where the greatest face is not rerolled, one face less than all is rerolled when all the others
are. -/
theorem card_rerolled_eq_pred_iff (hsize : 1 ≤ set.size) (h : set.size ∉ set.rerolled) :
    (((Finset.Icc 1 set.size).filter (· ∈ set.rerolled)).card : Int) = set.size - 1 ↔
      ∀ face, 1 ≤ face → face < set.size → face ∈ set.rerolled := by
  rw [filter_rerolled_of_not_mem h, card_rerolled_eq_iff (by omega)]
  simp only [Int.le_sub_one_iff]

/-- A set with faces is refused exactly when none of them stops. -/
theorem endless?_isSome_iff (hsize : 1 ≤ set.size) :
    set.endless?.isSome ↔ ∀ face, 1 ≤ face → face ≤ set.size → set.stops face = false := by
  have hgreatest : set.size ∉ set.rerolledFaces ↔ set.size ∉ set.rerolled := by
    simp [rerolledFaces, Faces.mem_toList, hsize]
  have hevery := @card_rerolled_eq_iff set set.size (by omega)
  simp only [stops_eq_false_iff]
  unfold endless?
  simp only [length_rerolledFaces, hgreatest]
  split
  · rename_i hall
    simpa using fun face hlo hhi => .inl (hevery.mp hall face hlo hhi)
  · rename_i hnot
    split
    · rename_i hexplodes
      obtain ⟨hexploding, hcount, hmem⟩ := hexplodes
      refine iff_of_true rfl fun face hlo hhi => ?_
      by_cases hface : face = set.size
      · exact .inr ⟨hexploding, hface⟩
      · exact .inl ((card_rerolled_eq_pred_iff hsize hmem).mp hcount face hlo (by omega))
    · rename_i hexplodes
      refine iff_of_false (by simp) fun hstops => hexplodes ?_
      -- Some face is not rerolled, so it is the greatest one and explodes.
      obtain ⟨face, hlo, hhi, hface⟩ :
          ∃ face, 1 ≤ face ∧ face ≤ set.size ∧ face ∉ set.rerolled := by
        by_contra hnone
        push Not at hnone
        exact hnot (hevery.mpr hnone)
      obtain ⟨hexploding, rfl⟩ := (hstops face hlo hhi).resolve_left hface
      refine ⟨hexploding, (card_rerolled_eq_pred_iff hsize hface).mpr ?_, hface⟩
      intro other hother hbelow
      exact (hstops other hother hbelow.le).resolve_right fun h => hbelow.ne h.2

/-- Draws that show faces of the die. -/
def InRange (set : DieSet) (draws : List Int) : Prop :=
  ∀ face ∈ draws, 1 ≤ face ∧ face ≤ set.size

/-- A number of dice come to rest on listed draws. -/
def Completes (set : DieSet) (dice : Nat) (draws : List Int) : Prop :=
  ∃ faces, ((set.drawFaces dice).run (.ofDraws draws)).outcome = .ok faces

/-- Coming to rest is completing the nested loops. -/
theorem completes_iff_isSome_dice? (dice : Nat) (draws : List Int) :
    set.Completes dice draws ↔ (set.dice? dice draws).isSome := by
  have hread := congrArg Option.isSome (@dice?_eq_read set dice draws)
  rw [Option.isSome_map] at hread
  simp only [Completes, Roll.run, drawFaces, hread]
  split <;> simp_all

/-- Dice come to rest when enough of the draws stop. -/
theorem completes_iff_countP (dice : Nat) (draws : List Int) :
    set.Completes dice draws ↔ dice ≤ draws.countP set.stops := by
  rw [← @Source.complete_read_ofDraws 1 set.size]
  simp only [Completes, Roll.run, drawFaces]
  split <;> simp_all

/-- On faces that never stop, no die comes to rest. -/
theorem not_completes_of_endless? (hsize : 1 ≤ set.size) (h : set.endless?.isSome) {dice : Nat}
    (hdice : 1 ≤ dice) {draws : List Int} (hrange : set.InRange draws) :
    ¬ set.Completes dice draws := by
  have hnone : draws.countP set.stops = 0 := List.countP_eq_zero.mpr fun face hface => by
    simp [(endless?_isSome_iff hsize).mp h face (hrange face hface).1 (hrange face hface).2]
  rw [completes_iff_countP]
  omega

/-- A face that stops can be drawn as often as dice are left to come to rest. -/
theorem exists_completes_append (hsize : 1 ≤ set.size) (h : set.endless? = none) (dice : Nat)
    (draws : List Int) : ∃ more, set.InRange more ∧ set.Completes dice (draws ++ more) := by
  obtain ⟨face, hlo, hhi, hstops⟩ :
      ∃ face, 1 ≤ face ∧ face ≤ set.size ∧ set.stops face = true := by
    by_contra hnone
    push Not at hnone
    have hendless := (endless?_isSome_iff hsize).mpr fun face hlo hhi => by
      simpa using hnone face hlo hhi
    simp [h] at hendless
  refine ⟨List.replicate dice face, fun other hother => ?_, ?_⟩
  · rw [List.eq_of_mem_replicate hother]
    exact ⟨hlo, hhi⟩
  · rw [completes_iff_countP, List.countP_append, List.countP_replicate, if_pos hstops]
    omega

/-- Rolling the set ends by refusing it as endless. -/
def Refused (set : DieSet) (ceiling : Int) (source : Source) : Prop :=
  ∃ other cause, ((set.roll ceiling).run source).outcome = .error (.endless other cause)

/-- A set that could never finish is refused under its own name, before anything happens. -/
theorem run_roll_of_endless? {cause : Endless} (h : set.endless? = some cause) (ceiling : Int)
    (source : Source) :
    (set.roll ceiling).run source = ⟨.error (.endless set cause), source, []⟩ := by
  rw [roll, h, Roll.run_fail]

/-- The guard alone refuses a set. -/
theorem refused_iff {ceiling : Int} {source : Source} :
    set.Refused ceiling source ↔ set.endless?.isSome := by
  have hrolls := set.rolls_run_roll ceiling source
  unfold Refused
  generalize (set.roll ceiling).run source = run at hrolls ⊢
  cases hrolls with
  | endless guard => simp [guard]
  | capUnwritable guard | exhausted guard | unwritable guard | done guard => simp [guard]

/-- The guard is exact. It refuses a set, before anything happens, exactly when the dice come to
rest on no draws in range; and when it does not, draws in range on which they have not come to rest
can always be continued until they do. -/
theorem refused_iff_never_completes {ceiling : Int} (hsize : 1 ≤ set.size)
    (hdice : 1 ≤ min (set.count : Int) ceiling) (source : Source) :
    (set.Refused ceiling source ↔
      ¬ ∃ draws, set.InRange draws ∧ set.Completes (set.diceUnder ceiling) draws) ∧
    (set.Refused ceiling source →
      ∃ cause, (set.roll ceiling).run source = ⟨.error (.endless set cause), source, []⟩) ∧
    (¬ set.Refused ceiling source →
      ∀ draws, set.InRange draws → ¬ set.Completes (set.diceUnder ceiling) draws →
        ∃ more, set.InRange more ∧ set.Completes (set.diceUnder ceiling) (draws ++ more)) := by
  have hcount : 1 ≤ set.diceUnder ceiling := by
    unfold diceUnder
    omega
  rw [refused_iff]
  rcases hguard : set.endless? with _ | cause
  · have hextends := exists_completes_append hsize hguard (set.diceUnder ceiling)
    refine ⟨iff_of_false (by simp) fun hnone => hnone ?_, by simp, ?_⟩
    · simpa using hextends []
    · exact fun _ draws _ _ => hextends draws
  · have hrefused := run_roll_of_endless? hguard ceiling source
    refine ⟨iff_of_true rfl ?_, fun _ => ⟨cause, hrefused⟩, by simp⟩
    rintro ⟨draws, hrange, hcompletes⟩
    exact not_completes_of_endless? hsize (by simp [hguard]) hcount hrange hcompletes

/-- Two dice with six faces, of which the lower three are rerolled and the greatest explodes, can
still come to rest after a six. -/
theorem exists_completes_after_six :
    let set : DieSet :=
      { size := 6, signedCount := 3, exploding := true, rerolled := Faces.ofList [1, 2, 3] }
    ∃ more, set.InRange more ∧ set.Completes (set.diceUnder 2) ([6] ++ more) := by
  intro set
  have hexact := refused_iff_never_completes (by decide : 1 ≤ set.size)
    (by decide : 1 ≤ min (set.count : Int) 2) .spent
  refine hexact.2.2 (by rw [refused_iff]; decide) [6] (by simp [InRange, set]) ?_
  rw [completes_iff_countP]
  decide

end DiceRoll.DieSet
