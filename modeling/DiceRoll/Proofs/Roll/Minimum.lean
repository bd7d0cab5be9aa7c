import DiceRoll.Proofs.Roll.Independence
import DiceRoll.Proofs.Roll.Ranking
import DiceRoll.Proofs.Roll.Shortest
import DiceRoll.Proofs.Roll.Success

/-!
# Greater minima

Raising the values of a roll to a minimum keeps their ranking, so the dice that a rule drops are, by
their values, the ones it dropped before, each raised, and so are those it keeps. Ties that come of
raising may change which positions are dropped, but not what the dropped values are. So neither what
is kept nor what is dropped is worth less under a greater minimum: the total does not fall where the
raised sets are added, and does not rise where they are subtracted. A minimum that is too long to be
told of, however, ends the roll.
-/

namespace DiceRoll

/-! ### Selections from raised values -/

/-- A selection of as many values, worth at least as much. -/
structure Selection.Gains (selection raised : Selection) : Prop where
  length_kept : raised.kept.length = selection.kept.length
  length_dropped : raised.dropped.length = selection.dropped.length
  sum_kept_le : selection.kept.sum ≤ raised.kept.sum
  sum_dropped_le : selection.dropped.sum ≤ raised.dropped.sum

namespace Selection

variable {f : Int → Int}

/-- Dice whose values are changed give, in roll order, the changed values in some order. -/
theorem inRollOrder_map_perm {dice others : List (Int × Nat)}
    (h : dice.map Prod.fst = (others.map Prod.fst).map f) :
    (inRollOrder dice).Perm ((inRollOrder others).map f) := by
  apply (inRollOrder_perm dice).trans
  rw [h]
  exact ((inRollOrder_perm others).map f).symm

variable (hf : Monotone f)
include hf

/-- The values of a ranking ascend, so it does not matter whether they are changed before or after
ranking. -/
theorem map_fst_ranking_map (values : List Int) :
    (ranking (values.map f)).map Prod.fst = ((ranking values).map Prod.fst).map f := by
  have hsorted (values : List Int) : ((ranking values).map Prod.fst).Pairwise (· ≤ ·) := by
    rw [List.pairwise_map]
    apply (pairwise_ranking values).imp
    intro die other hlt
    have hcases := Prod.Lex.toLex_lt_toLex.mp hlt
    omega
  apply List.Perm.eq_of_pairwise (fun _ _ _ _ => le_antisymm) (hsorted _)
  · exact (hsorted values).map f fun _ _ hle => hf hle
  · exact (ranking_perm _).trans ((ranking_perm values).map f).symm

/-- What a rule keeps and drops of changed values is, in some order, the changed values of what it
keeps and drops. -/
theorem ofDrop_map_perm (drop : Int) (values : List Int) :
    (ofDrop drop (values.map f)).kept.Perm ((ofDrop drop values).kept.map f) ∧
      (ofDrop drop (values.map f)).dropped.Perm ((ofDrop drop values).dropped.map f) := by
  have htake (n : Nat) : ((ranking (values.map f)).take n).map Prod.fst =
      (((ranking values).take n).map Prod.fst).map f := by
    simp only [List.map_take, map_fst_ranking_map hf]
  have hdrop (n : Nat) : ((ranking (values.map f)).drop n).map Prod.fst =
      (((ranking values).drop n).map Prod.fst).map f := by
    simp only [List.map_drop, map_fst_ranking_map hf]
  unfold ofDrop
  split
  · exact ⟨inRollOrder_map_perm (hdrop _), inRollOrder_map_perm (htake _)⟩
  · rw [List.length_map]
    exact ⟨inRollOrder_map_perm (htake _), inRollOrder_map_perm (hdrop _)⟩

/-- Where no value falls, neither what is kept nor what is dropped is worth less. -/
theorem gains_ofDrop_map (hle : ∀ value, value ≤ f value) (drop : Int) (values : List Int) :
    (ofDrop drop values).Gains (ofDrop drop (values.map f)) := by
  obtain ⟨hkept, hdropped⟩ := ofDrop_map_perm hf drop values
  have hsum (values : List Int) : values.sum ≤ (values.map f).sum := by
    simpa using List.sum_le_sum fun value (_ : value ∈ values) => hle value
  refine ⟨?_, ?_, ?_, ?_⟩
  · rw [hkept.length_eq, List.length_map]
  · rw [hdropped.length_eq, List.length_map]
  · rw [hkept.sum_eq]
    exact hsum _
  · rw [hdropped.sum_eq]
    exact hsum _

end Selection

/-! ### Sets -/

namespace DieSet

variable {set other : DieSet} {ceiling : Int} {source : Source} {selection : Selection}

/-- Two sets are the same but for the minimum, which is no smaller in the second one. -/
structure RaisedTo (set other : DieSet) : Prop where
  minimum_le : set.minimum ≤ other.minimum
  eq : other = { set with minimum := other.minimum }

/-- The minimum of a set is not too long to be told of, or no die is rolled. -/
def ShortMinimum (set : DieSet) (ceiling : Int) : Prop :=
  set.minimum < (10 ^ Text.maxDigits : Nat) ∨ set.diceUnder ceiling = 0

theorem shortMinimum_of_fits (h : Text.fits set.minimum = true) : set.ShortMinimum ceiling := by
  rw [Text.fits_iff] at h
  left
  generalize 10 ^ Text.maxDigits = bound at h ⊢
  omega

namespace RaisedTo

variable (h : set.RaisedTo other)
include h

theorem drawnAlike : set.DrawnAlike other := by
  rw [h.eq]
  exact ⟨rfl, rfl, rfl, rfl⟩

theorem isNegative_eq : other.isNegative = set.isNegative := by
  rw [h.eq]
  rfl

/-- The values under a greater minimum are those under the smaller one, raised. -/
theorem values_eq (faces : List Int) :
    other.values faces = (set.values faces).map (max · other.minimum) := by
  have hmax (face : Int) : max (max face set.minimum) other.minimum = max face other.minimum := by
    rw [max_assoc, max_eq_right h.minimum_le]
  simp only [values, List.map_map, Function.comp_def, hmax, h.drawnAlike.rerolled]

/-- A selection under a greater minimum is worth no less. -/
theorem gains_selection (source : Source) :
    (set.selection ceiling source).Gains (other.selection ceiling source) := by
  have hdrop : other.drop = set.drop := by rw [h.eq]
  rw [selection, selection, ← h.drawnAlike.reading_eq, h.values_eq, hdrop]
  apply Selection.gains_ofDrop_map
  · exact fun _ _ hle => max_le_max_right _ hle
  · exact fun value => le_max_left _ _

/-- Where a set can be told of, it can be under a greater minimum that is not too long. -/
theorem tellable_iff (hsettles : set.Settles ceiling source)
    (htell : set.Tellable ceiling source) :
    other.Tellable ceiling source ↔ other.ShortMinimum ceiling := by
  have hsize : other.size = set.size := h.drawnAlike.size.symm
  have hfits := h.drawnAlike.fits_signedCount_eq
  have hdice : other.diceUnder ceiling = set.diceUnder ceiling := by
    simp only [diceUnder, h.drawnAlike.count]
  obtain ⟨hsizeFits, hcountFits, hvaluesFit⟩ := DieSet.tellable_iff.mp htell
  have htellable : other.Tellable ceiling source ↔
      ∀ value ∈ set.values (set.reading ceiling source).draws,
        Text.fits (max value other.minimum) = true := by
    rw [DieSet.tellable_iff, ← h.drawnAlike.reading_eq, h.values_eq, hsize, ← hfits,
      List.forall_mem_map]
    simp only [hsizeFits, hcountFits, true_and]
  have hcount := Source.countP_draws_read hsettles.complete
  rw [htellable, ShortMinimum, hdice]
  constructor
  · intro hall
    rcases Nat.eq_zero_or_pos (set.diceUnder ceiling) with hzero | hpos
    · exact .inr hzero
    -- The face of a die that came to rest counts for some value.
    · obtain ⟨face, hface, hstops⟩ := List.countP_pos_iff.mp (hcount ▸ hpos)
      have hcounts := (stops_eq_true_iff.mp hstops).1
      have hvalue := hall (max face set.minimum)
        (List.mem_map_of_mem (List.mem_filter.mpr ⟨hface, by simpa using hcounts⟩))
      rw [Text.fits_iff] at hvalue
      left
      generalize 10 ^ Text.maxDigits = bound at hvalue ⊢
      omega
  · intro hshort value hvalue
    rcases hshort with hminimum | hzero
    · have hvalueFits := hvaluesFit value hvalue
      rw [Text.fits_iff] at hvalueFits ⊢
      generalize 10 ^ Text.maxDigits = bound at hminimum hvalueFits ⊢
      omega
    · simp [reading, hzero, values] at hvalue

/-- What an added set contributes does not fall under a greater minimum. -/
theorem sum_kept_le (hadded : set.isNegative = false) (source : Source) :
    (Outcome.ofSelection set (set.selection ceiling source)).kept.sum ≤
      (Outcome.ofSelection other (other.selection ceiling source)).kept.sum := by
  rw [Outcome.sum_kept_ofSelection, Outcome.sum_kept_ofSelection, h.isNegative_eq, hadded]
  exact (h.gains_selection source).sum_kept_le

/-- What a subtracted set contributes does not rise under a greater minimum. -/
theorem le_sum_kept (hsubtracted : set.isNegative = true) (source : Source) :
    (Outcome.ofSelection other (other.selection ceiling source)).kept.sum ≤
      (Outcome.ofSelection set (set.selection ceiling source)).kept.sum := by
  rw [Outcome.sum_kept_ofSelection, Outcome.sum_kept_ofSelection, h.isNegative_eq, hsubtracted]
  exact neg_le_neg (h.gains_selection source).sum_kept_le

end RaisedTo

/-- On the draws of a set, another one gives a selection that is worth no less. -/
def GainsOn (other set : DieSet) (ceiling : Int) (source : Source) (selection : Selection) :
    Prop :=
  ∃ raised, ((other.roll ceiling).run source).outcome = .ok raised ∧
    ((other.roll ceiling).run source).drawn = ((set.roll ceiling).run source).drawn ∧
    ((other.roll ceiling).run source).source = ((set.roll ceiling).run source).source ∧
    selection.Gains raised

/-- A set that gives a selection gives one that is worth no less under a greater minimum, unless
that is too long. -/
theorem RaisedTo.gainsOn_iff (h : set.RaisedTo other)
    (hok : ((set.roll ceiling).run source).outcome = .ok selection) :
    other.GainsOn set ceiling source selection ↔ other.ShortMinimum ceiling := by
  obtain ⟨hsettles, htell, rfl⟩ := outcome_roll_eq_ok_iff.mp hok
  rw [← h.tellable_iff hsettles htell]
  constructor
  · intro ⟨raised, hraised, _⟩
    exact (outcome_roll_eq_ok_iff.mp hraised).2.1
  · intro htell'
    have hsettles' := h.drawnAlike.settles_iff.mp hsettles
    have hrun := run_roll_of_tellable hsettles htell
    have hrun' := run_roll_of_tellable hsettles' htell'
    refine ⟨other.selection ceiling source, by rw [hrun'], ?_, ?_, h.gains_selection source⟩
    · rw [drawn_run_roll_of_tellable hsettles htell, drawn_run_roll_of_tellable hsettles' htell',
        h.drawnAlike.reading_eq, h.drawnAlike.size]
    · rw [hrun, hrun', h.drawnAlike.reading_eq]

/-- Of two sets, the second one has the greater minimum, if it has another one at all and the sets
have the sign. -/
structure RaisedWhere (negative : Bool) (set other : DieSet) : Prop where
  raised : set.RaisedTo other
  sign : set.isNegative = negative ∨ other = set

end DieSet

/-! ### Formulas -/

namespace Formula

variable {sets others : List DieSet} {ceiling : Int} {source : Source}

/-- Sets that give selections give some under greater minima exactly when these are not too long. -/
theorem exists_outcome_iff_shortMinimum (h : List.Forall₂ DieSet.RaisedTo sets others)
    {selections : List Selection}
    (hok : (Roll.run (sets.mapM fun set => set.roll ceiling) source).outcome = .ok selections) :
    (∃ raised, (Roll.run (others.mapM fun set => set.roll ceiling) source).outcome = .ok raised) ↔
      ∀ other ∈ others, other.ShortMinimum ceiling := by
  induction h generalizing source selections with
  | nil => exact iff_of_true ⟨[], rfl⟩ (by simp)
  | @cons set other sets others hset _ ih =>
    obtain ⟨hsettles, htell, rest, hrest, -⟩ := outcome_mapM_roll_cons_eq_ok_iff.mp hok
    rw [List.forall_mem_cons, ← hset.tellable_iff hsettles htell, ← ih hrest]
    simp only [outcome_mapM_roll_cons_eq_ok_iff, ← hset.drawnAlike.settles_iff,
      ← hset.drawnAlike.reading_eq]
    constructor
    · intro ⟨_, _, htell', raised, hraised, _⟩
      exact ⟨htell', raised, hraised⟩
    · intro ⟨htell', raised, hraised⟩
      exact ⟨_, hsettles, htell', raised, hraised, rfl⟩

/-- Of two formulas that are drawn alike, the one whose sets each contribute no more has no greater
total. -/
theorem total_tally_le {related : DieSet → DieSet → Prop}
    (hdrawn : ∀ set other, related set other → set.DrawnAlike other)
    (hle : ∀ set other, related set other → ∀ source,
      (Outcome.ofSelection set (set.selection ceiling source)).kept.sum ≤
        (Outcome.ofSelection other (other.selection ceiling source)).kept.sum)
    (h : List.Forall₂ related sets others) {selections raised : List Selection}
    (hok : (Roll.run (sets.mapM fun set => set.roll ceiling) source).outcome = .ok selections)
    (hok' : (Roll.run (others.mapM fun set => set.roll ceiling) source).outcome = .ok raised)
    (modifiers : List Int) :
    (Result.tally (sets.zip selections) modifiers).total ≤
      (Result.tally (others.zip raised) modifiers).total := by
  induction h generalizing source selections raised with
  | nil => exact le_refl _
  | @cons set other sets others hset _ ih =>
    obtain ⟨-, -, rest, hrest, rfl⟩ := outcome_mapM_roll_cons_eq_ok_iff.mp hok
    obtain ⟨-, -, more, hmore, rfl⟩ := outcome_mapM_roll_cons_eq_ok_iff.mp hok'
    rw [← (hdrawn _ _ hset).reading_eq] at hmore
    rw [List.zip_cons_cons, List.zip_cons_cons, Result.total_tally_cons, Result.total_tally_cons]
    exact Int.add_le_add (hle _ _ hset source) (ih hrest hmore)

/-- Two formulas are the same but for the minima of sets of one sign, which are no smaller in the
second one. -/
structure RaisedWhere (negative : Bool) (left right : Formula) : Prop where
  sets : List.Forall₂ (DieSet.RaisedWhere negative) left.sets right.sets
  modifiers : right.modifiers = left.modifiers

variable {left right : Formula} {result raised : Result}

/-- Greater minima in added sets do not let the total fall. -/
theorem RaisedWhere.total_le (h : RaisedWhere false left right)
    (hok : ((left.roll ceiling).run source).outcome = .ok result)
    (hok' : ((right.roll ceiling).run source).outcome = .ok raised) :
    result.total ≤ raised.total := by
  obtain ⟨selections, hselections, rfl⟩ := outcome_roll_eq_ok_iff.mp hok
  obtain ⟨more, hmore, rfl⟩ := outcome_roll_eq_ok_iff.mp hok'
  rw [h.modifiers]
  apply total_tally_le (fun _ _ hset => hset.raised.drawnAlike) _ h.sets hselections hmore
  intro set other hset source
  cases hset.sign with
  | inl hadded => exact hset.raised.sum_kept_le hadded source
  | inr hsame => rw [hsame]

/-- Greater minima in subtracted sets do not let the total rise. -/
theorem RaisedWhere.le_total (h : RaisedWhere true left right)
    (hok : ((left.roll ceiling).run source).outcome = .ok result)
    (hok' : ((right.roll ceiling).run source).outcome = .ok raised) :
    raised.total ≤ result.total := by
  obtain ⟨selections, hselections, rfl⟩ := outcome_roll_eq_ok_iff.mp hok
  obtain ⟨more, hmore, rfl⟩ := outcome_roll_eq_ok_iff.mp hok'
  rw [h.modifiers]
  -- The raised formula is the smaller one here, so the relation between the sets is turned around.
  apply total_tally_le (fun _ _ hset => hset.raised.drawnAlike.symm) _ h.sets.flip hmore
    hselections
  intro other set hset source
  cases hset.sign with
  | inl hsubtracted => exact hset.raised.le_sum_kept hsubtracted source
  | inr hsame => rw [hsame]

/-- The formula gives a result whose total meets a condition. -/
def ComesTo (formula : Formula) (ceiling : Int) (source : Source) (good : Int → Prop) : Prop :=
  ∃ result, ((formula.roll ceiling).run source).outcome = .ok result ∧ good result.total

/-- Under greater minima a formula comes to a total that meets what all its totals would meet,
exactly when none of them is too long. -/
theorem RaisedWhere.comesTo_iff {negative : Bool} (h : RaisedWhere negative left right)
    (hok : ((left.roll ceiling).run source).outcome = .ok result) {good : Int → Prop}
    (hgood : ∀ raised, ((right.roll ceiling).run source).outcome = .ok raised →
      good raised.total) :
    right.ComesTo ceiling source good ↔ ∀ set ∈ right.sets, set.ShortMinimum ceiling := by
  obtain ⟨selections, hselections, -⟩ := outcome_roll_eq_ok_iff.mp hok
  have hraised := h.sets.imp fun _ _ hset => hset.raised
  rw [← exists_outcome_iff_shortMinimum hraised hselections]
  constructor
  · intro ⟨raised, hok', _⟩
    obtain ⟨more, hmore, -⟩ := outcome_roll_eq_ok_iff.mp hok'
    exact ⟨more, hmore⟩
  · intro ⟨more, hmore⟩
    have hok' := outcome_roll_eq_ok_iff.mpr ⟨more, hmore, rfl⟩
    exact ⟨_, hok', hgood _ hok'⟩

/-- Greater minima that are not too long, and no others, let a set draw the same faces and keep and
drop no less, and so let the total of a formula not fall where the raised sets are added and not
rise where they are subtracted. -/
theorem raising_minima_iff (ceiling : Int) (source : Source) :
    (∀ (set other : DieSet) (selection : Selection), set.RaisedTo other →
      ((set.roll ceiling).run source).outcome = .ok selection →
        (other.GainsOn set ceiling source selection ↔ other.ShortMinimum ceiling)) ∧
    ∀ (left right : Formula) (result : Result),
      ((left.roll ceiling).run source).outcome = .ok result →
        (RaisedWhere false left right →
          (right.ComesTo ceiling source (result.total ≤ ·) ↔
            ∀ set ∈ right.sets, set.ShortMinimum ceiling)) ∧
        (RaisedWhere true left right →
          (right.ComesTo ceiling source (· ≤ result.total) ↔
            ∀ set ∈ right.sets, set.ShortMinimum ceiling)) := by
  constructor
  · intro set other selection hraised hok
    exact hraised.gainsOn_iff hok
  · intro left right result hok
    constructor
    · intro hraised
      exact hraised.comesTo_iff hok fun _ hok' => hraised.total_le hok hok'
    · intro hraised
      exact hraised.comesTo_iff hok fun _ hok' => hraised.le_total hok hok'

/-- Three dice that lose their lowest, less a die with four faces. A minimum of four makes the lost
die worth as much as one that is kept, and the total of seven does not fall. A minimum of two for
the subtracted die does not let it rise. -/
theorem raising_three_dice :
    let set : DieSet := { size := 6, signedCount := 3, drop := 1 }
    let raised : DieSet := { size := 6, signedCount := 3, drop := 1, minimum := 4 }
    let formula : Formula := { sets := [set, { size := 4, signedCount := -1 }] }
    let more : Formula := { sets := [raised, { size := 4, signedCount := -1 }] }
    let less : Formula := { sets := [set, { size := 4, signedCount := -1, minimum := 2 }] }
    let source : Source := .ofDraws [3, 2, 5, 1]
    ((set.roll 10).run source).outcome = .ok ⟨[3, 5], [2]⟩ ∧
      raised.GainsOn set 10 source ⟨[3, 5], [2]⟩ ∧
      ((formula.roll 10).run source).outcome =
        .ok ⟨[⟨[3, 5], [2], false⟩, ⟨[-1], [], true⟩], [], 7, false, false⟩ ∧
      more.ComesTo 10 source (7 ≤ ·) ∧ less.ComesTo 10 source (· ≤ 7) := by
  intro set raised formula more less source
  obtain ⟨hgains, htotals⟩ := raising_minima_iff 10 source
  have hok : ((set.roll 10).run source).outcome = .ok ⟨[3, 5], [2]⟩ := by
    subst set source
    cbv
  have hresult : ((formula.roll 10).run source).outcome =
      .ok ⟨[⟨[3, 5], [2], false⟩, ⟨[-1], [], true⟩], [], 7, false, false⟩ := by
    subst formula set source
    cbv
  have hraised : set.RaisedTo raised := ⟨by decide, rfl⟩
  have hsame (set : DieSet) : set.RaisedTo set := ⟨le_refl _, rfl⟩
  have hmore : RaisedWhere false formula more :=
    ⟨.cons ⟨hraised, .inl rfl⟩ (.cons ⟨hsame _, .inr rfl⟩ .nil), rfl⟩
  have hless : RaisedWhere true formula less :=
    ⟨.cons ⟨hsame _, .inr rfl⟩ (.cons ⟨⟨by decide, rfl⟩, .inl rfl⟩ .nil), rfl⟩
  have hshort : ∀ set ∈ more.sets ++ less.sets, set.ShortMinimum 10 := by
    intro set hset
    apply DieSet.shortMinimum_of_fits
    revert set
    decide
  refine ⟨hok, ?_, hresult, ?_, ?_⟩
  · exact (hgains _ _ _ hraised hok).mpr (hshort raised List.mem_cons_self)
  · exact ((htotals _ _ _ hresult).1 hmore).mpr
      fun set hset => hshort set (List.mem_append_left _ hset)
  · exact ((htotals _ _ _ hresult).2 hless).mpr
      fun set hset => hshort set (List.mem_append_right _ hset)

/-- A die that can be told of cannot be told of any more under a minimum that is too long. -/
theorem not_gainsOn_longMinimum :
    let set : DieSet := { size := 6, signedCount := 1 }
    let raised : DieSet := { set with minimum := longMinimum }
    set.RaisedTo raised ∧ ((set.roll 10).run (.ofDraws [3])).outcome = .ok ⟨[3], []⟩ ∧
      ¬ raised.GainsOn set 10 (.ofDraws [3]) ⟨[3], []⟩ := by
  intro set raised
  have hminimum : 0 ≤ longMinimum := by
    rw [longMinimum]
    exact Int.natCast_nonneg _
  have hok : ((set.roll 10).run (.ofDraws [3])).outcome = .ok ⟨[3], []⟩ := by
    subst set
    cbv
  refine ⟨⟨hminimum, rfl⟩, hok, fun hgains => ?_⟩
  obtain ⟨selection, hselection, -⟩ := hgains
  obtain ⟨-, htell, -⟩ := DieSet.outcome_roll_eq_ok_iff.mp hselection
  have hvalues := (DieSet.tellable_iff.mp htell).2.2
  exact not_fits_max_longMinimum 3 (hvalues _ List.mem_cons_self)

end Formula

end DiceRoll
