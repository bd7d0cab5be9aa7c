import DiceRoll.Proofs.Roll.Independence
import DiceRoll.Proofs.Roll.Success

/-!
# Between which totals a formula falls

A die that does not explode counts for one face that is not rerolled, raised to the minimum. So each
kept die counts for at least the least such face and at most the greatest one, and the total lies
between the totals of formulas all of whose dice show these faces. Both totals are reached, by draws
that show one face throughout each set, unless a number to be told of is too long to be written.
-/

namespace DiceRoll

namespace DieSet

variable {set : DieSet} {ceiling : Int} {selection : Selection} {face value : Int}

/-! ### What a die counts for -/

/-- The faces of a die that are not rerolled. -/
def countedFaces (set : DieSet) : List Int :=
  ((List.range set.size.toNat).map fun n : Nat => (n : Int) + 1).filter (· ∉ set.rerolled)

/-- The least face that is not rerolled. -/
def leastFace (set : DieSet) : Int :=
  set.countedFaces.min?.getD 0

/-- The greatest face that is not rerolled. -/
def greatestFace (set : DieSet) : Int :=
  set.countedFaces.max?.getD 0

/-- The least value a die counts for. -/
def lowest (set : DieSet) : Int :=
  max set.leastFace set.minimum

/-- The greatest value a die counts for. -/
def highest (set : DieSet) : Int :=
  max set.greatestFace set.minimum

theorem mem_countedFaces :
    face ∈ set.countedFaces ↔ (1 ≤ face ∧ face ≤ set.size) ∧ face ∉ set.rerolled := by
  simp only [countedFaces, List.mem_filter, List.mem_map, List.mem_range, decide_eq_true_eq]
  apply and_congr_left
  intro _
  constructor
  · intro ⟨n, hn, hface⟩
    omega
  · intro ⟨hlo, hhi⟩
    exact ⟨(face - 1).toNat, by omega, by omega⟩

/-- Where some face is not rerolled, one such face is the least of them. -/
theorem isLeast_leastFace (h : face ∈ set.countedFaces) :
    set.leastFace ∈ set.countedFaces ∧ ∀ other ∈ set.countedFaces, set.leastFace ≤ other := by
  cases hleast : set.countedFaces.min? with
  | none => simp [List.min?_eq_none_iff.mp hleast] at h
  | some least =>
    rw [leastFace, hleast]
    exact List.min?_eq_some_iff.mp hleast

/-- Where some face is not rerolled, one such face is the greatest of them. -/
theorem isGreatest_greatestFace (h : face ∈ set.countedFaces) :
    set.greatestFace ∈ set.countedFaces ∧
      ∀ other ∈ set.countedFaces, other ≤ set.greatestFace := by
  cases hgreatest : set.countedFaces.max? with
  | none => simp [List.max?_eq_none_iff.mp hgreatest] at h
  | some greatest =>
    rw [greatestFace, hgreatest]
    exact List.max?_eq_some_iff.mp hgreatest

/-- A face that is not rerolled counts for a value between the bounds. -/
theorem between_of_mem_countedFaces (h : face ∈ set.countedFaces) :
    set.lowest ≤ max face set.minimum ∧ max face set.minimum ≤ set.highest :=
  ⟨max_le_max_right _ ((isLeast_leastFace h).2 face h),
    max_le_max_right _ ((isGreatest_greatestFace h).2 face h)⟩

theorem one_le_lowest (h : face ∈ set.countedFaces) : 1 ≤ set.lowest :=
  (mem_countedFaces.mp (isLeast_leastFace h).1).1.1.trans (le_max_left _ _)

/-- The values of faces in range come from faces that are not rerolled. -/
theorem exists_countedFace_of_mem_values {faces : List Int} (hfaces : set.InRange faces)
    (hvalue : value ∈ set.values faces) :
    ∃ face ∈ set.countedFaces, max face set.minimum = value := by
  obtain ⟨face, hface, hmax⟩ := List.mem_map.mp hvalue
  obtain ⟨hmem, hcounts⟩ := List.mem_filter.mp hface
  exact ⟨face, mem_countedFaces.mpr ⟨hfaces face hmem, by simpa using hcounts⟩, hmax⟩

/-! ### Sets whose dice count for one face each -/

/-- The dice of a set do not explode, and some face of them is not rerolled. -/
structure Plain (set : DieSet) : Prop where
  not_exploding : set.exploding = false
  size_pos : 1 ≤ set.size
  counts : ∃ face, face ∈ set.countedFaces

namespace Plain

variable (h : set.Plain)
include h

/-- Every face that is not rerolled ends the rolling of a die. -/
theorem stops_eq : set.stops = fun face => !decide (face ∈ set.rerolled) := by
  funext face
  simp [stops, explodes, h.not_exploding]

theorem stops_of_mem (hface : face ∈ set.countedFaces) : set.stops face = true := by
  simp [h.stops_eq, (mem_countedFaces.mp hface).2]

theorem leastFace_mem : set.leastFace ∈ set.countedFaces := by
  obtain ⟨face, hface⟩ := h.counts
  exact (isLeast_leastFace hface).1

theorem greatestFace_mem : set.greatestFace ∈ set.countedFaces := by
  obtain ⟨face, hface⟩ := h.counts
  exact (isGreatest_greatestFace hface).1

theorem endless?_eq_none : set.endless? = none := by
  obtain ⟨face, hface⟩ := h.counts
  obtain ⟨⟨hlo, hhi⟩, -⟩ := mem_countedFaces.mp hface
  rw [← Option.not_isSome_iff_eq_none, endless?_isSome_iff h.size_pos]
  intro hnone
  simpa [h.stops_of_mem hface] using hnone face hlo hhi

/-- As many values come from drawn faces as dice came to rest on them. -/
theorem length_values (faces : List Int) :
    (set.values faces).length = faces.countP set.stops := by
  rw [values, List.length_map, ← List.countP_eq_length_filter, h.stops_eq]

end Plain

/-- How many dice of a set are kept. -/
def keptCount (set : DieSet) (ceiling : Int) : Nat :=
  set.diceUnder ceiling - min set.drop.natAbs (set.diceUnder ceiling)

theorem length_kept_ofDrop (drop : Int) (values : List Int) :
    (Selection.ofDrop drop values).kept.length =
      values.length - min drop.natAbs values.length := by
  have hall := Selection.length_kept_add_length_dropped drop values
  have hdropped := Selection.length_dropped_ofDrop drop values
  omega

/-- The values of a selection in range come from faces that are not rerolled. -/
theorem SelectsInRange.exists_countedFace (h : set.SelectsInRange ceiling selection)
    (hvalue : value ∈ selection.kept ++ selection.dropped) :
    ∃ face ∈ set.countedFaces, max face set.minimum = value := by
  obtain ⟨faces, hfaces, -, rfl⟩ := h.drawn
  exact exists_countedFace_of_mem_values hfaces
    ((Selection.kept_append_dropped_perm _ _).mem_iff.mp hvalue)

/-- All values of a selection in range lie between the bounds. -/
theorem SelectsInRange.between (h : set.SelectsInRange ceiling selection)
    (hvalue : value ∈ selection.kept ++ selection.dropped) :
    set.lowest ≤ value ∧ value ≤ set.highest := by
  obtain ⟨face, hface, rfl⟩ := h.exists_countedFace hvalue
  exact between_of_mem_countedFaces hface

theorem SelectsInRange.length_kept (h : set.SelectsInRange ceiling selection)
    (hplain : set.Plain) : selection.kept.length = set.keptCount ceiling := by
  obtain ⟨faces, -, hcount, rfl⟩ := h.drawn
  rw [length_kept_ofDrop, hplain.length_values, hcount, keptCount]

theorem SelectsInRange.length_dropped (h : set.SelectsInRange ceiling selection)
    (hplain : set.Plain) :
    selection.dropped.length = set.diceUnder ceiling - set.keptCount ceiling := by
  obtain ⟨faces, -, hcount, rfl⟩ := h.drawn
  rw [Selection.length_dropped_ofDrop, hplain.length_values, hcount, keptCount]
  omega

/-- What a set contributes to a total when each kept die counts for one number if the set is added,
and for another one if it is subtracted. -/
def share (set : DieSet) (ceiling added subtracted : Int) : Int :=
  if set.isNegative then -(set.keptCount ceiling * subtracted) else set.keptCount ceiling * added

/-- What a set contributes lies between what it would with all dice at one bound. -/
theorem SelectsInRange.share_le_sum (h : set.SelectsInRange ceiling selection)
    (hplain : set.Plain) :
    set.share ceiling set.lowest set.highest ≤ (Outcome.ofSelection set selection).kept.sum ∧
      (Outcome.ofSelection set selection).kept.sum ≤
        set.share ceiling set.highest set.lowest := by
  have hkept : ∀ value ∈ selection.kept, set.lowest ≤ value ∧ value ≤ set.highest :=
    fun value hvalue => h.between (List.mem_append_left _ hvalue)
  have hlow := List.card_nsmul_le_sum _ _ fun value hvalue => (hkept value hvalue).1
  have hhigh := List.sum_le_card_nsmul _ _ fun value hvalue => (hkept value hvalue).2
  rw [h.length_kept hplain, nsmul_eq_mul] at hlow hhigh
  rw [Outcome.sum_kept_ofSelection, share, share]
  split
  · exact ⟨neg_le_neg hhigh, neg_le_neg hlow⟩
  · exact ⟨hlow, hhigh⟩

/-! ### Draws that show one face -/

/-- All that has to be told of a set under a ceiling is short enough to be written. -/
structure CanBeTold (set : DieSet) (ceiling : Int) : Prop where
  fits_size : Text.fits set.size = true
  fits_signedCount : Text.fits set.signedCount = true
  fits_ceiling : ceiling < set.count → Text.fits ceiling = true
  fits_highest : 0 < set.diceUnder ceiling → Text.fits set.highest = true

/-- What a set gives in range could be told of. -/
theorem SelectsInRange.canBeTold (h : set.SelectsInRange ceiling selection)
    (hplain : set.Plain) : set.CanBeTold ceiling := by
  have hnumbers := h.written
  simp only [Event.isWritable, Event.numbers, List.all_cons, Bool.and_eq_true,
    List.all_eq_true] at hnumbers
  obtain ⟨hsize, hsignedCount, hvalues⟩ := hnumbers
  refine ⟨hsize, hsignedCount, fun hcap => (all_isWritable_capEvents_iff.mp h.told hcap).1, ?_⟩
  intro hdice
  have hlength : 0 < (selection.kept ++ selection.dropped).length := by
    rw [List.length_append, h.length_kept hplain, h.length_dropped hplain]
    unfold keptCount
    omega
  obtain ⟨value, hvalue⟩ := List.exists_mem_of_length_pos hlength
  have hfits := hvalues value hvalue
  obtain ⟨face, hface, rfl⟩ := h.exists_countedFace hvalue
  obtain ⟨hgreatest, hle⟩ := isGreatest_greatestFace hface
  obtain ⟨⟨hlo, hhi⟩, -⟩ := mem_countedFaces.mp hgreatest
  unfold highest
  by_cases hminimum : set.minimum ≤ set.greatestFace
  · rw [max_eq_left hminimum]
    exact Text.fits_of_natAbs_le hsize (by omega)
  -- A minimum above all faces is what the drawn face counts for as well.
  · have hbelow := hle face hface
    rw [max_eq_right (by omega)] at hfits ⊢
    exact hfits

theorem values_replicate (hface : face ∈ set.countedFaces) (n : Nat) :
    set.values (List.replicate n face) = List.replicate n (max face set.minimum) := by
  simp [values, (mem_countedFaces.mp hface).2]

/-- On draws that show one face, the dice of a set come to rest on it. -/
theorem exists_run_roll_replicate (hplain : set.Plain) (htold : set.CanBeTold ceiling)
    (hface : face ∈ set.countedFaces) (rest : List Int) :
    ∃ events, (set.roll ceiling).run
        (.ofDraws (List.replicate (set.diceUnder ceiling) face ++ rest)) =
      ⟨.ok (Selection.ofDrop set.drop
          (List.replicate (set.diceUnder ceiling) (max face set.minimum))),
        .ofDraws rest, events⟩ ∧ ∀ event ∈ events, event.InRange := by
  have hreading : set.reading ceiling
      (.ofDraws (List.replicate (set.diceUnder ceiling) face ++ rest)) =
      ⟨List.replicate (set.diceUnder ceiling) face, .ofDraws rest, true⟩ :=
    Source.read_ofDraws_replicate (hplain.stops_of_mem hface) _ _
  generalize Source.ofDraws (List.replicate (set.diceUnder ceiling) face ++ rest) = source
    at hreading ⊢
  have hselection : set.selection ceiling source = Selection.ofDrop set.drop
      (List.replicate (set.diceUnder ceiling) (max face set.minimum)) := by
    rw [selection, hreading, values_replicate hface]
  have hsettles : set.Settles ceiling source := by
    refine ⟨hplain.endless?_eq_none, all_isWritable_capEvents_iff.mpr fun hcap => ?_, ?_⟩
    · have hcount : Text.fits set.count = true := by
        rw [count, Text.fits_natAbs, htold.fits_signedCount]
      exact ⟨htold.fits_ceiling hcap, hcount, htold.fits_size⟩
    · rw [hreading]
  have htell : set.Tellable ceiling source := by
    rw [tellable_iff, hreading, values_replicate hface]
    refine ⟨htold.fits_size, htold.fits_signedCount, fun value hvalue => ?_⟩
    obtain ⟨hdice, rfl⟩ := List.mem_replicate.mp hvalue
    have hbetween := between_of_mem_countedFaces hface
    have hpos := one_le_lowest hface
    exact Text.fits_of_natAbs_le (htold.fits_highest (Nat.pos_of_ne_zero hdice)) (by omega)
  have hrun := run_roll_of_tellable hsettles htell
  rw [hselection, hreading] at hrun
  refine ⟨_, hrun, fun event hevent => ?_⟩
  rcases List.mem_append.mp hevent with hdice | hrolled
  · rcases List.mem_append.mp hdice with hcap | hdraw
    · rw [eq_capped_of_mem_capEvents hcap]
      exact trivial
    · rw [drawEvents, hreading] at hdraw
      obtain ⟨drawn, hdrawn, rfl⟩ := List.mem_map.mp hdraw
      rw [List.eq_of_mem_replicate hdrawn]
      exact (mem_countedFaces.mp hface).1
  · rw [List.mem_singleton.mp hrolled]
    exact trivial

/-- Of dice that all count for one value, each kept one adds it. -/
theorem sum_kept_ofDrop_replicate (set : DieSet) (ceiling value : Int) :
    (Selection.ofDrop set.drop (List.replicate (set.diceUnder ceiling) value)).kept.sum =
      set.keptCount ceiling * value := by
  have hlength := length_kept_ofDrop set.drop (List.replicate (set.diceUnder ceiling) value)
  have hperm := Selection.kept_append_dropped_perm set.drop
    (List.replicate (set.diceUnder ceiling) value)
  have hkept := List.eq_replicate_of_mem fun found hfound =>
    List.eq_of_mem_replicate (hperm.mem_iff.mp (List.mem_append_left _ hfound))
  rw [List.length_replicate] at hlength
  rw [hkept, List.sum_replicate, hlength, nsmul_eq_mul, keptCount]

end DieSet

/-! ### Totals -/

/-- A set keeps and drops as many values as its rule says, all between two bounds. -/
structure Outcome.Within (ceiling : Int) (set : DieSet) (outcome : Outcome) : Prop where
  length_kept : outcome.kept.length = set.keptCount ceiling
  length_dropped : outcome.dropped.length = set.diceUnder ceiling - set.keptCount ceiling
  between : ∀ value ∈ outcome.kept ++ outcome.dropped,
    set.lowest ≤ |value| ∧ |value| ≤ set.highest

theorem Outcome.within_ofSelection {ceiling : Int} {set : DieSet} {selection : Selection}
    (h : set.SelectsInRange ceiling selection) (hplain : set.Plain) :
    (Outcome.ofSelection set selection).Within ceiling set where
  length_kept := by rw [length_kept_ofSelection, h.length_kept hplain]
  length_dropped := by rw [length_dropped_ofSelection, h.length_dropped hplain]
  between := by
    have hselection : ∀ value ∈ selection.kept ++ selection.dropped,
        set.lowest ≤ |value| ∧ |value| ≤ set.highest := by
      intro value hvalue
      obtain ⟨face, hface, -⟩ := h.exists_countedFace hvalue
      have hbetween := h.between hvalue
      have hpos := DieSet.one_le_lowest hface
      rw [abs_of_nonneg (by omega)]
      exact hbetween
    unfold ofSelection
    split
    · intro value hvalue
      rw [← List.map_append] at hvalue
      obtain ⟨unsigned, hunsigned, rfl⟩ := List.mem_map.mp hvalue
      rw [abs_neg]
      exact hselection unsigned hunsigned
    · exact hselection

namespace Formula

variable {formula : Formula} {ceiling : Int}

/-- The total when each kept die counts for one number in sets that are added, and for another one
in sets that are subtracted. -/
def totalOf (formula : Formula) (ceiling : Int) (added subtracted : DieSet → Int) : Int :=
  ((formula.sets.filter (! ·.isNegative)).map fun set => set.keptCount ceiling * added set).sum -
    ((formula.sets.filter (·.isNegative)).map fun set =>
      set.keptCount ceiling * subtracted set).sum +
    formula.modifiers.sum

/-- The total when all dice are worth the least to who adds it up. -/
def leastTotal (formula : Formula) (ceiling : Int) : Int :=
  formula.totalOf ceiling DieSet.lowest DieSet.highest

/-- The total when all dice are worth the most to who adds it up. -/
def greatestTotal (formula : Formula) (ceiling : Int) : Int :=
  formula.totalOf ceiling DieSet.highest DieSet.lowest

/-- A total is what the sets contribute to it, and the modifiers. -/
theorem totalOf_eq (formula : Formula) (ceiling : Int) (added subtracted : DieSet → Int) :
    formula.totalOf ceiling added subtracted =
      (formula.sets.map fun set => set.share ceiling (added set) (subtracted set)).sum +
        formula.modifiers.sum := by
  unfold totalOf
  congr 1
  induction formula.sets with
  | nil => rfl
  | cons set sets ih =>
    rw [List.map_cons, List.sum_cons, ← ih, List.filter_cons, List.filter_cons, DieSet.share]
    cases set.isNegative with
    | false =>
      simp only [Bool.not_false, if_true, Bool.false_eq_true, if_false, List.map_cons,
        List.sum_cons]
      ring
    | true =>
      simp only [Bool.not_true, if_true, Bool.false_eq_true, if_false, List.map_cons,
        List.sum_cons]
      ring

/-- What a result in range satisfies. -/
structure Bounded (formula : Formula) (ceiling : Int) (result : Result) : Prop where
  outcomes : List.Forall₂ (Outcome.Within ceiling) formula.sets result.outcomes
  leastTotal_le : formula.leastTotal ceiling ≤ result.total
  le_greatestTotal : result.total ≤ formula.greatestTotal ceiling

/-- In range, every set keeps as many dice as its rule says, and the total falls between the least
and the greatest one. -/
theorem RollsInRange.bounded {source : Source} {result : Result}
    (h : formula.RollsInRange ceiling source result)
    (hplain : ∀ set ∈ formula.sets, set.Plain) : formula.Bounded ceiling result := by
  obtain ⟨selections, hselections, rfl⟩ := h.exists_selections
  have hboth := (List.forall₂_and_left formula.sets selections).mpr ⟨hplain, hselections⟩
  have hshares : List.Forall₂ (fun set outcome =>
      set.share ceiling set.lowest set.highest ≤ outcome.kept.sum ∧
        outcome.kept.sum ≤ set.share ceiling set.highest set.lowest)
      formula.sets (Result.tally (formula.sets.zip selections) formula.modifiers).outcomes :=
    Result.forall₂_outcomes_tally
      (fun set selection ⟨hset, hselects⟩ => hselects.share_le_sum hset) hboth _
  have hleast := List.Forall₂.sum_le_sum (List.forall₂_map_left_iff.mpr
    (List.forall₂_map_right_iff.mpr (hshares.imp fun _ _ hshare => hshare.1)))
  have hgreatest := List.Forall₂.sum_le_sum (List.forall₂_map_left_iff.mpr
    (List.forall₂_map_right_iff.mpr (hshares.flip.imp fun _ _ hshare => hshare.2)))
  refine ⟨?_, ?_, ?_⟩
  · exact Result.forall₂_outcomes_tally
      (fun set selection ⟨hset, hselects⟩ => Outcome.within_ofSelection hselects hset) hboth _
  · rw [leastTotal, totalOf_eq, Result.total_tally]
    exact Int.add_le_add_right hleast _
  · rw [greatestTotal, totalOf_eq, Result.total_tally]
    exact Int.add_le_add_right hgreatest _

/-- What a result in range was made from could be told of. -/
theorem RollsInRange.canBeTold {source : Source} {result : Result}
    (h : formula.RollsInRange ceiling source result)
    (hplain : ∀ set ∈ formula.sets, set.Plain) : ∀ set ∈ formula.sets, set.CanBeTold ceiling := by
  obtain ⟨selections, hselections, -⟩ := h.exists_selections
  intro set hset
  obtain ⟨selection, -, hselects⟩ := exists_mem_of_forall₂ hselections.flip hset
  exact hselects.canBeTold (hplain set hset)

/-! ### Reaching the bounds -/

/-- A formula has a total on some source whose draws stay in range. -/
def Reaches (formula : Formula) (ceiling total : Int) : Prop :=
  ∃ source result, formula.RollsInRange ceiling source result ∧ result.total = total

/-- The draws that show one face throughout each set. -/
def steadyDraws (ceiling : Int) (face : DieSet → Int) (sets : List DieSet) : List Int :=
  sets.flatMap fun set => List.replicate (set.diceUnder ceiling) (face set)

/-- On draws that show one face throughout each set, every set is rolled to its end. -/
theorem exists_run_steadyDraws {face : DieSet → Int} {sets : List DieSet}
    (h : ∀ set ∈ sets, set.Plain ∧ set.CanBeTold ceiling ∧ face set ∈ set.countedFaces) :
    ∃ selections rest events,
      Roll.run (sets.mapM fun set => set.roll ceiling) (.ofDraws (steadyDraws ceiling face sets)) =
        ⟨.ok selections, rest, events⟩ ∧
      (∀ event ∈ events, event.InRange) ∧
      List.Forall₂ (fun set selection => selection = Selection.ofDrop set.drop
        (List.replicate (set.diceUnder ceiling) (max (face set) set.minimum))) sets selections := by
  induction sets with
  | nil => exact ⟨[], _, [], rfl, by simp, .nil⟩
  | cons set sets ih =>
    obtain ⟨⟨hplain, htold, hface⟩, hsets⟩ := List.forall_mem_cons.mp h
    obtain ⟨events, hrun, hevents⟩ :=
      DieSet.exists_run_roll_replicate hplain htold hface (steadyDraws ceiling face sets)
    obtain ⟨selections, rest, more, hmore, hrange, hselections⟩ := ih hsets
    have hcons : steadyDraws ceiling face (set :: sets) =
        List.replicate (set.diceUnder ceiling) (face set) ++ steadyDraws ceiling face sets :=
      List.flatMap_cons
    rw [List.mapM_cons, hcons, Roll.run_bind_of_ok hrun, Roll.run_bind_of_ok hmore]
    refine ⟨_, _, _, rfl, ?_, .cons rfl hselections⟩
    intro event hevent
    rcases List.mem_append.mp hevent with hfirst | hothers
    · exact hevents event hfirst
    · rcases List.mem_append.mp hothers with hothers | hnone
      · exact hrange event hothers
      · cases hnone

/-- A total is reached whose dice count in each set for one face, when the sets can be told of. -/
theorem reaches_totalOf (hplain : ∀ set ∈ formula.sets, set.Plain)
    (htold : ∀ set ∈ formula.sets, set.CanBeTold ceiling) {added subtracted : DieSet → Int}
    (hadded : ∀ set ∈ formula.sets, added set ∈ set.countedFaces)
    (hsubtracted : ∀ set ∈ formula.sets, subtracted set ∈ set.countedFaces) :
    formula.Reaches ceiling (formula.totalOf ceiling (fun set => max (added set) set.minimum)
      fun set => max (subtracted set) set.minimum) := by
  let face (set : DieSet) := if set.isNegative then subtracted set else added set
  have hface : ∀ set ∈ formula.sets, face set ∈ set.countedFaces := by
    intro set hset
    dsimp only [face]
    split
    · exact hsubtracted set hset
    · exact hadded set hset
  obtain ⟨selections, rest, events, hrun, hrange, hselections⟩ := exists_run_steadyDraws
    fun set hset => ⟨hplain set hset, htold set hset, hface set hset⟩
  have houtcome := outcome_roll_eq_ok_iff.mpr ⟨selections, by rw [hrun], rfl⟩
  refine ⟨_, _, ⟨?_, houtcome⟩, ?_⟩
  · rw [events_roll, hrun]
    exact hrange
  · have hshares : List.Forall₂ (fun set outcome => set.share ceiling
        (max (added set) set.minimum) (max (subtracted set) set.minimum) = outcome.kept.sum)
        formula.sets (Result.tally (formula.sets.zip selections) formula.modifiers).outcomes := by
      refine Result.forall₂_outcomes_tally ?_ hselections _
      intro set selection hselection
      rw [hselection, Outcome.sum_kept_ofSelection, DieSet.sum_kept_ofDrop_replicate,
        DieSet.share]
      dsimp only [face]
      split
      · rfl
      · rfl
    have hsum := List.forall₂_eq_eq_eq ▸ List.forall₂_map_left_iff.mpr
      (List.forall₂_map_right_iff.mpr hshares)
    rw [Result.total_tally, totalOf_eq, hsum]

/-- Between the bounds of a formula lies all that its rolls in range come to, and the bounds are
reached exactly when its sets can be told of. -/
theorem bounded_and_reaches_iff (hplain : ∀ set ∈ formula.sets, set.Plain) (ceiling : Int) :
    (∀ source result, formula.RollsInRange ceiling source result →
      formula.Bounded ceiling result) ∧
    (formula.Reaches ceiling (formula.leastTotal ceiling) ∧
        formula.Reaches ceiling (formula.greatestTotal ceiling) ↔
      ∀ set ∈ formula.sets, set.CanBeTold ceiling) := by
  refine ⟨fun source result hrolls => hrolls.bounded hplain, ?_, ?_⟩
  · intro ⟨⟨source, result, hrolls, _⟩, _⟩
    exact hrolls.canBeTold hplain
  · intro htold
    have hleast := fun set hset => (hplain set hset).leastFace_mem
    have hgreatest := fun set hset => (hplain set hset).greatestFace_mem
    exact ⟨reaches_totalOf hplain htold hleast hgreatest,
      reaches_totalOf hplain htold hgreatest hleast⟩

/-- Two kept dice of three that count for three to six, less the three of four dice with eight faces
that the ceiling leaves, and a modifier. -/
theorem reaches_neg_thirteen_and_fourteen :
    let formula : Formula :=
      { sets :=
          [{ size := 6, signedCount := 3, drop := 1, rerolled := Faces.ofList [1], minimum := 3 },
            { size := 8, signedCount := -4 }]
        modifiers := [5] }
    (∀ set ∈ formula.sets, set.Plain) ∧ (∀ set ∈ formula.sets, set.CanBeTold 3) ∧
      formula.Reaches 3 (-13) ∧ formula.Reaches 3 14 := by
  intro formula
  have hplain : ∀ set ∈ formula.sets, set.Plain := by
    intro set hset
    simp only [formula, List.mem_cons, List.not_mem_nil, or_false] at hset
    rcases hset with rfl | rfl
    · exact ⟨rfl, by decide, 2, by decide⟩
    · exact ⟨rfl, by decide, 2, by decide⟩
  have htold : ∀ set ∈ formula.sets, set.CanBeTold 3 := by
    intro set hset
    simp only [formula, List.mem_cons, List.not_mem_nil, or_false] at hset
    rcases hset with rfl | rfl
    · exact ⟨by decide, by decide, fun _ => by decide, fun _ => by decide⟩
    · exact ⟨by decide, by decide, fun _ => by decide, fun _ => by decide⟩
  have hreaches := (bounded_and_reaches_iff hplain 3).2.mpr htold
  have hleast : formula.leastTotal 3 = -13 := by decide
  have hgreatest : formula.greatestTotal 3 = 14 := by decide
  rw [hleast, hgreatest] at hreaches
  exact ⟨hplain, htold, hreaches⟩

/-- A die whose minimum is too long to be written comes to no total at all. -/
theorem not_reaches_longMinimum :
    let formula : Formula := { sets := [{ size := 1, signedCount := 1, minimum := longMinimum }] }
    (∀ set ∈ formula.sets, set.Plain) ∧ ∀ total, ¬ formula.Reaches 10 total := by
  intro formula
  have hplain : ∀ set ∈ formula.sets, set.Plain := by
    intro set hset
    rw [List.mem_singleton.mp hset]
    exact ⟨rfl, by decide, 1, by decide⟩
  refine ⟨hplain, fun total hreaches => ?_⟩
  obtain ⟨source, result, hrolls, -⟩ := hreaches
  have htold := hrolls.canBeTold hplain _ List.mem_cons_self
  exact not_fits_max_longMinimum _ (htold.fits_highest (by decide))

end Formula

end DiceRoll
