import DiceRoll.Proofs.Roll.Alike
import DiceRoll.Proofs.Roll.Guard

/-!
# Which draws a set reads

A set that passes the guard reads the shortest beginning of the draws in which as many of them stop
as there are dice to roll, and all draws where there is none. The loops over dice, explosions and
rerolled faces come to the same: the values that they give are those of the draws that are not
rerolled, raised to the minimum, in their order. What is told of the set is worded at once, so all
of this hangs on the numbers told of being short enough to be written.
-/

namespace DiceRoll

/-- The shortest beginning of a list of draws in which a number of them meet a condition. -/
structure IsShortest (condition : Int → Bool) (n : Nat) (draws faces : List Int) : Prop where
  begins : faces <+: draws
  count : faces.countP condition = n
  least : ∀ other, other <+: draws → n ≤ other.countP condition → faces.length ≤ other.length

/-- There is one shortest beginning at most. -/
theorem IsShortest.unique {condition : Int → Bool} {n : Nat} {draws faces other : List Int}
    (h : IsShortest condition n draws faces) (hother : IsShortest condition n draws other) :
    faces = other := by
  have hlength : faces.length = other.length :=
    (h.least other hother.begins hother.count.ge).antisymm
      (hother.least faces h.begins h.count.ge)
  exact List.prefix_of_prefix_length_le h.begins hother.begins hlength.le |>.eq_of_length hlength

namespace Source

variable {lo hi : Int} {stops : Int → Bool}

theorem ofDraws_injective : Function.Injective ofDraws := by
  intro draws others h
  induction draws generalizing others with
  | nil => cases others <;> simp_all [ofDraws]
  | cons first rest ih =>
    cases others with
    | nil => simp [ofDraws] at h
    | cons other others =>
      rw [ofDraws, ofDraws, ready.injEq] at h
      rw [congrFun (congrFun h.1 0) 0, ih (congrFun (congrFun h.2 0) 0)]

/-- A reading of listed draws takes a beginning of them and leaves the others, and no shorter one
has as many draws that stop. -/
theorem exists_read_ofDraws (n : Nat) (draws : List Int) :
    ∃ faces rest, draws = faces ++ rest ∧
      (read lo hi stops (ofDraws draws) n).draws = faces ∧
      (read lo hi stops (ofDraws draws) n).rest = ofDraws rest ∧
      ∀ other, other <+: draws → n ≤ other.countP stops → faces.length ≤ other.length := by
  induction draws generalizing n with
  | nil => cases n <;> exact ⟨[], [], rfl, rfl, rfl, by simp⟩
  | cons drawn draws ih =>
    cases n with
    | zero => exact ⟨[], drawn :: draws, rfl, by simp, by simp, by simp⟩
    | succ n =>
      obtain ⟨faces, rest, hdraws, hfaces, hrest, hleast⟩ := ih (if stops drawn then n else n + 1)
      refine ⟨drawn :: faces, rest, by rw [hdraws, List.cons_append], ?_, ?_, ?_⟩
      · rw [ofDraws, read_ready, ← hfaces]
      · rw [ofDraws, read_ready, ← hrest]
      · intro other hbegins hcount
        -- A beginning with a draw that stops is not empty, so it begins with the first draw.
        cases other with
        | nil => simp at hcount
        | cons first other =>
          obtain ⟨rfl, hother⟩ := List.cons_prefix_cons.mp hbegins
          rw [List.length_cons, List.length_cons]
          refine Nat.succ_le_succ (hleast other hother ?_)
          rw [List.countP_cons] at hcount
          split at hcount <;> simp_all

/-- A reading that comes to its end takes the shortest beginning in which enough draws stop. -/
theorem isShortest_draws_read {n : Nat} {draws : List Int} (h : n ≤ draws.countP stops) :
    ∃ rest, draws = (read lo hi stops (ofDraws draws) n).draws ++ rest ∧
      (read lo hi stops (ofDraws draws) n).rest = ofDraws rest ∧
      IsShortest stops n draws (read lo hi stops (ofDraws draws) n).draws := by
  have hcomplete := (@complete_read_ofDraws lo hi stops n draws).mpr h
  obtain ⟨faces, rest, hdraws, rfl, hrest, hleast⟩ := @exists_read_ofDraws lo hi stops n draws
  exact ⟨rest, hdraws, hrest, ⟨rest, hdraws.symm⟩, countP_draws_read hcomplete, hleast⟩

/-- A reading that does not come to its end takes all draws. -/
theorem read_ofDraws_of_lt {n : Nat} {draws : List Int} (h : draws.countP stops < n) :
    read lo hi stops (ofDraws draws) n = ⟨draws, spent, false⟩ := by
  induction draws generalizing n with
  | nil => cases n <;> simp_all [ofDraws]
  | cons drawn draws ih =>
    cases n with
    | zero => simp at h
    | succ n =>
      have hrest : draws.countP stops < if stops drawn then n else n + 1 := by
        rw [List.countP_cons] at h
        split at h <;> simp_all
      rw [ofDraws, read_ready, ih hrest]

end Source

/-- Whether an event is a draw. -/
def Event.isDrawn : Event → Bool
  | .drawn .. => true
  | _ => false

/-- The draws of a run, each with the bounds it was asked for, in order. -/
def Run.drawn {α : Type} (run : Run α) : List Event :=
  run.events.filter Event.isDrawn

namespace DieSet

variable {set : DieSet} {ceiling : Int} {dice : Nat} {draws : List Int}

/-! ### The loops on listed draws -/

/-- Where enough draws stop, the loops give the values of what a reading takes. -/
theorem dice?_eq_some {rest : List Int} {reading : Source.Reading}
    (hreading : (Source.ofDraws draws).read 1 set.size set.stops dice = reading)
    (hcomplete : reading.complete = true) (hrest : reading.rest = .ofDraws rest) :
    set.dice? dice draws = some (set.values reading.draws, rest) := by
  have hread := @dice?_eq_read set dice draws
  simp only [hreading, hcomplete, if_true, hrest, Option.map_eq_some_iff, Prod.mk.injEq] at hread
  obtain ⟨⟨values, left⟩, hdice, hvalues, hleft⟩ := hread
  rw [hdice, ← hvalues, ← Source.ofDraws_injective hleft]

/-- Where too few draws stop, the loops do not end. -/
theorem dice?_eq_none (h : draws.countP set.stops < dice) : set.dice? dice draws = none := by
  have hread := @dice?_eq_read set dice draws
  simpa [Source.read_ofDraws_of_lt h] using hread

/-- The number of dice to roll lies between zero and the ceiling. -/
theorem natCast_diceUnder :
    (set.diceUnder ceiling : Int) = max 0 (min (set.count : Int) ceiling) := by
  unfold diceUnder
  omega

/-- The values of draws are those of the ones that are not rerolled, raised to the minimum. -/
theorem map_max_filter_notMem (set : DieSet) (faces : List Int) :
    (faces.filter fun face => face ∉ set.rerolled).map (max · set.minimum) = set.values faces := by
  simp [values]

/-- What a set comes to on listed draws of which a number has to stop. -/
structure ReadsShortest (set : DieSet) (ceiling : Int) (dice : Nat) (stopping : Int → Bool)
    (draws : List Int) : Prop where
  /-- Where enough draws stop, the shortest beginning in which they do is read, and its draws are
  counted. -/
  settled : dice ≤ draws.countP stopping → ∃ faces rest, draws = faces ++ rest ∧
    IsShortest stopping dice draws faces ∧
    let run := (set.roll ceiling).run (.ofDraws draws)
    let rolled := (faces.filter fun face => face ∉ set.rerolled).map (max · set.minimum)
    set.dice? dice draws = some (rolled, rest) ∧
      run.drawn = faces.map (Event.drawn 1 set.size) ∧ run.source = .ofDraws rest ∧
      run.outcome = .ok (Selection.ofDrop set.drop rolled)
  /-- Where too few stop, all draws are read and nothing comes of it. -/
  exhausted : draws.countP stopping < dice →
    let run := (set.roll ceiling).run (.ofDraws draws)
    set.dice? dice draws = none ∧
      run.drawn = draws.map (Event.drawn 1 set.size) ∧ run.source = .spent ∧
      run.outcome = .error .exhausted

/-- Of what happens while a set is rolled, the draws are those of its faces. -/
theorem filter_isDrawn_diceEvents (source : Source) :
    (set.capEvents ceiling ++ set.drawEvents ceiling source).filter Event.isDrawn =
      (set.reading ceiling source).draws.map (Event.drawn 1 set.size) := by
  have hcap : (set.capEvents ceiling).filter Event.isDrawn = [] := by
    apply List.filter_eq_nil_iff.mpr
    intro event hevent
    rw [eq_capped_of_mem_capEvents hevent]
    exact Bool.false_ne_true
  have hdraw : (set.drawEvents ceiling source).filter Event.isDrawn =
      set.drawEvents ceiling source :=
    List.filter_eq_self.mpr fun event hevent => by
      obtain ⟨face, -, rfl⟩ := List.mem_map.mp hevent
      rfl
  rw [List.filter_append, hcap, hdraw, List.nil_append, drawEvents]

/-- What is drawn for a set that can be told of are the faces it reads. -/
theorem drawn_run_roll_of_tellable {source : Source} (hsettles : set.Settles ceiling source)
    (htell : set.Tellable ceiling source) :
    ((set.roll ceiling).run source).drawn =
      (set.reading ceiling source).draws.map (Event.drawn 1 set.size) := by
  rw [run_roll_of_tellable hsettles htell, Run.drawn, List.filter_append,
    filter_isDrawn_diceEvents]
  exact List.append_nil _

theorem complete_reading_ofDraws :
    (set.reading ceiling (.ofDraws draws)).complete = true ↔
      set.diceUnder ceiling ≤ draws.countP set.stops :=
  Source.complete_read_ofDraws _ _

/-- The shortest beginning is read when all that is told of the set can be written. -/
theorem readsShortest_of_told (guard : set.endless? = none)
    (told : (set.capEvents ceiling).all Event.isWritable = true)
    (htellable : set.diceUnder ceiling ≤ draws.countP set.stops →
      set.Tellable ceiling (.ofDraws draws)) :
    set.ReadsShortest ceiling (set.diceUnder ceiling) set.stops draws where
  settled henough := by
    have hcomplete := complete_reading_ofDraws.mpr henough
    obtain ⟨rest, hdraws, hrest, hshortest⟩ :=
      @Source.isShortest_draws_read 1 set.size set.stops _ draws henough
    have hrun := run_roll_of_tellable ⟨guard, told, hcomplete⟩ (htellable henough)
    have hdrawn := drawn_run_roll_of_tellable ⟨guard, told, hcomplete⟩ (htellable henough)
    refine ⟨_, rest, hdraws, hshortest, ?_, hdrawn, hrun ▸ hrest, ?_⟩
    · rw [map_max_filter_notMem]
      exact dice?_eq_some rfl hcomplete hrest
    · rw [map_max_filter_notMem, hrun]
      rfl
  exhausted hfew := by
    have hreading : set.reading ceiling (.ofDraws draws) = ⟨draws, .spent, false⟩ :=
      Source.read_ofDraws_of_lt hfew
    have hsettles : ¬ set.Settles ceiling (.ofDraws draws) := fun hsettles =>
      hfew.not_ge (complete_reading_ofDraws.mp hsettles.complete)
    have hrun := run_roll_of_not_settles hsettles
    simp only [guard, told, if_true] at hrun
    have hdrawn : ((set.roll ceiling).run (.ofDraws draws)).drawn =
        draws.map (Event.drawn 1 set.size) := by
      rw [hrun, Run.drawn, filter_isDrawn_diceEvents, hreading]
    refine ⟨dice?_eq_none hfew, hdrawn, ?_, ?_⟩ <;> rw [hrun]
    rw [hreading]

/-- A set that is rolled as it should be can tell all of it. -/
theorem told_of_readsShortest (guard : set.endless? = none)
    (h : set.ReadsShortest ceiling (set.diceUnder ceiling) set.stops draws) :
    (set.capEvents ceiling).all Event.isWritable = true ∧
      (set.diceUnder ceiling ≤ draws.countP set.stops →
        set.Tellable ceiling (.ofDraws draws)) := by
  obtain ⟨hsettled, hexhausted⟩ := h
  have hrolls := set.rolls_run_roll ceiling (.ofDraws draws)
  generalize (set.roll ceiling).run (.ofDraws draws) = run at hrolls hsettled hexhausted
  cases hrolls with
  | endless other => simp [guard] at other
  | capUnwritable =>
    rcases le_or_gt (set.diceUnder ceiling) (draws.countP set.stops) with henough | hfew
    · simpa using hsettled henough
    · simpa using hexhausted hfew
  | exhausted _ told incomplete =>
    refine ⟨told, fun henough => ?_⟩
    rw [complete_reading_ofDraws.mpr henough] at incomplete
    cases incomplete
  | unwritable _ _ complete => simpa using hsettled (complete_reading_ofDraws.mp complete)
  | done _ told _ short => exact ⟨told, fun _ => short⟩

/-- What is told of the dice of a set can be written when the values of the draws that are read can.
-/
theorem tellable_ofDraws_iff (henough : set.diceUnder ceiling ≤ draws.countP set.stops) :
    set.Tellable ceiling (.ofDraws draws) ↔
      Text.fits set.size = true ∧ Text.fits set.signedCount = true ∧
        ∀ faces, IsShortest set.stops (set.diceUnder ceiling) draws faces →
          ∀ face ∈ faces, face ∉ set.rerolled → Text.fits (max face set.minimum) = true := by
  obtain ⟨rest, -, -, hshortest⟩ :=
    @Source.isShortest_draws_read 1 set.size set.stops _ draws henough
  rw [tellable_iff]
  refine and_congr_right fun _ => and_congr_right fun _ =>
    ⟨fun h faces hfaces face hface hmem => ?_, fun h value hvalue => ?_⟩
  · refine h _ (List.mem_map_of_mem (List.mem_filter.mpr ⟨?_, by simpa using hmem⟩))
    exact hfaces.unique hshortest ▸ hface
  · obtain ⟨face, hface, rfl⟩ := List.mem_map.mp hvalue
    obtain ⟨hread, hmem⟩ := List.mem_filter.mp hface
    exact h _ hshortest face hread (by simpa using hmem)

/-- A set that passes the guard reads the shortest beginning of the draws in which as many stop as
there are dice, or all of them where too few do, exactly when what is told of it can be written. -/
theorem readsShortest_iff (guard : set.endless? = none)
    (hdice : (dice : Int) = max 0 (min (set.count : Int) ceiling)) {stopping : Int → Bool}
    (hstopping : ∀ draw, stopping draw = true ↔
      draw ∉ set.rerolled ∧ ¬ (set.exploding = true ∧ draw = set.size)) (draws : List Int) :
    set.ReadsShortest ceiling dice stopping draws ↔
      (ceiling < set.count →
        Text.fits ceiling = true ∧ Text.fits set.count = true ∧ Text.fits set.size = true) ∧
      (dice ≤ draws.countP stopping →
        Text.fits set.size = true ∧ Text.fits set.signedCount = true ∧
          ∀ faces, IsShortest stopping dice draws faces →
            ∀ face ∈ faces, face ∉ set.rerolled → Text.fits (max face set.minimum) = true) := by
  obtain rfl : dice = set.diceUnder ceiling := by
    rw [← natCast_diceUnder] at hdice
    exact Int.ofNat_inj.mp hdice
  obtain rfl : stopping = set.stops := by
    funext draw
    rw [Bool.eq_iff_iff, hstopping, stops_eq_true_iff]
  have htold : set.ReadsShortest ceiling (set.diceUnder ceiling) set.stops draws ↔
      (set.capEvents ceiling).all Event.isWritable = true ∧
        (set.diceUnder ceiling ≤ draws.countP set.stops →
          set.Tellable ceiling (.ofDraws draws)) :=
    ⟨told_of_readsShortest guard, fun h => readsShortest_of_told guard h.1 h.2⟩
  rw [htold, all_isWritable_capEvents_iff]
  exact and_congr_right fun _ => forall_congr' tellable_ofDraws_iff

/-- Two dice of three, with faces that are rerolled, one that explodes and a minimum above some of
those that count, read five draws of six. -/
theorem readsShortest_two_of_three :
    let set : DieSet :=
      { size := 6, signedCount := -3, drop := 1, exploding := true
        rerolled := Faces.ofList [1, 2], minimum := 4 }
    set.endless? = none ∧ ((2 : Nat) : Int) = max 0 (min (set.count : Int) 2) ∧
      (∀ draw, set.stops draw = true ↔
        draw ∉ set.rerolled ∧ ¬ (set.exploding = true ∧ draw = set.size)) ∧
      set.ReadsShortest 2 2 set.stops [1, 6, 3, 2, 5, 4] := by
  intro set
  have guard : set.endless? = none := by decide
  have hdice : ((2 : Nat) : Int) = max 0 (min (set.count : Int) 2) := by decide
  have hstopping : ∀ draw, set.stops draw = true ↔
      draw ∉ set.rerolled ∧ ¬ (set.exploding = true ∧ draw = set.size) :=
    fun _ => stops_eq_true_iff
  have hshort : ∀ face ∈ [1, 6, 3, 2, 5, 4], Text.fits (max face set.minimum) = true := by decide
  refine ⟨guard, hdice, hstopping, (readsShortest_iff guard hdice hstopping _).mpr ⟨?_, ?_⟩⟩
  · exact fun _ => by decide
  · exact fun _ => ⟨by decide, by decide, fun faces hfaces face hface _ =>
      hshort face (hfaces.begins.mem hface)⟩

/-! ### A count that is too long -/

/-- The least count that is too long to be written. -/
@[irreducible] def longCount : Int := (10 ^ Text.maxDigits : Nat)

theorem not_fits_longCount : ¬ Text.fits longCount.natAbs = true := by
  rw [Text.fits_iff, longCount]
  generalize 10 ^ Text.maxDigits = bound
  omega

theorem two_lt_natAbs_longCount : 2 < longCount.natAbs := by
  have hdigits : 2 ≤ Text.maxDigits := by decide
  have hpow : Text.maxDigits < 10 ^ Text.maxDigits := Nat.lt_pow_self (by decide)
  rw [longCount, Int.natAbs_natCast]
  omega

/-- A set whose count is too long to be told of does not roll the dice that a ceiling leaves it. -/
theorem not_readsShortest_longCount :
    let set : DieSet := { size := 6, signedCount := longCount }
    set.endless? = none ∧ ((2 : Nat) : Int) = max 0 (min (set.count : Int) 2) ∧
      (∀ draw, set.stops draw = true ↔
        draw ∉ set.rerolled ∧ ¬ (set.exploding = true ∧ draw = set.size)) ∧
      ¬ set.ReadsShortest 2 2 set.stops [3, 4] := by
  intro set
  have guard : set.endless? = none := by decide
  have hmany : 2 < set.count := two_lt_natAbs_longCount
  have hdice : ((2 : Nat) : Int) = max 0 (min (set.count : Int) 2) := by omega
  have hstopping : ∀ draw, set.stops draw = true ↔
      draw ∉ set.rerolled ∧ ¬ (set.exploding = true ∧ draw = set.size) :=
    fun _ => stops_eq_true_iff
  refine ⟨guard, hdice, hstopping, fun hreads => ?_⟩
  obtain ⟨htold, -⟩ := (readsShortest_iff guard hdice hstopping _).mp hreads
  exact not_fits_longCount (htold (by omega)).2.1

end DieSet

end DiceRoll
