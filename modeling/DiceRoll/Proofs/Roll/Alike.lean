import DiceRoll.Proofs.Roll.Formula

/-!
# Rolls that are alike

Two runs are alike when they draw the same numbers in the same order, give the same warnings, leave
the same source and end in the same way. What they tell of the sets that they rolled is left to two
relations, one between the sets and one between the selections from them.

Sets that differ in sign, drop rule and minimum only are drawn alike. The one thing that can tell
their rolls apart is a value that is too long to be told of.
-/

namespace DiceRoll

/-! ### Runs -/

section Runs

variable {α β γ δ : Type} (related : DieSet → DieSet → Prop)
  (selected : Selection → Selection → Prop)

/-- Events that are the same, except for what is told of a rolled set. -/
inductive Event.Alike : Event → Event → Prop
  | drawn {lo hi value : Int} : Alike (.drawn lo hi value) (.drawn lo hi value)
  | capped {ceiling : Int} {count : Nat} {size : Int} :
    Alike (.capped ceiling count size) (.capped ceiling count size)
  | rolled {set other : DieSet} {selection choice : Selection} (hset : related set other)
    (hselection : selected selection choice) : Alike (.rolled set selection) (.rolled other choice)

/-- Faults of one kind. -/
inductive Fault.Alike : Fault → Fault → Prop
  | endless {set other : DieSet} {cause : DieSet.Endless} (hset : related set other) :
    Alike (.endless set cause) (.endless other cause)
  | exhausted : Alike .exhausted .exhausted
  | tooLong : Alike .tooLong .tooLong

/-- Two runs end alike: with related values or with faults of one kind. -/
inductive EndAlike (valued : α → β → Prop) : Except Fault α → Except Fault β → Prop
  | ok {value : α} {other : β} (h : valued value other) : EndAlike valued (.ok value) (.ok other)
  | error {fault other : Fault} (h : Fault.Alike related fault other) :
    EndAlike valued (.error fault) (.error other)

/-- Two runs draw and warn alike, leave the same source, and end alike. As many sets are rolled in
the one as in the other, so a fault of a set is that of the sets at one place. -/
structure Run.Alike (valued : α → β → Prop) (run : Run α) (other : Run β) : Prop where
  source : run.source = other.source
  events : List.Forall₂ (Event.Alike related selected) run.events other.events
  outcome : EndAlike related valued run.outcome other.outcome

variable {related selected} {roll : Roll α} {other : Roll β} {source : Source}
  {valued : α → β → Prop} {valued' : γ → δ → Prop}

theorem Run.Alike.map {f : α → γ} {g : β → δ}
    (h : Run.Alike related selected valued (roll.run source) (other.run source))
    (hvalued : ∀ value found, valued value found → valued' (f value) (g found)) :
    Run.Alike related selected valued' ((f <$> roll).run source) ((g <$> other).run source) := by
  obtain ⟨hsource, hevents, houtcome⟩ := h
  rw [Roll.run_map, Roll.run_map]
  refine ⟨hsource, hevents, ?_⟩
  generalize (roll.run source).outcome = outcome at houtcome ⊢
  generalize (other.run source).outcome = outcome' at houtcome ⊢
  cases houtcome with
  | ok hvalue => exact .ok (hvalued _ _ hvalue)
  | error hfault => exact .error hfault

/-- What follows rolls that are alike is run on the source that both of them left. -/
theorem Run.Alike.bind {next : α → Roll γ} {next' : β → Roll δ}
    (h : Run.Alike related selected valued (roll.run source) (other.run source))
    (hnext : ∀ value found, (roll.run source).outcome = .ok value → valued value found →
      Run.Alike related selected valued' ((next value).run (roll.run source).source)
        ((next' found).run (roll.run source).source)) :
    Run.Alike related selected valued' ((roll >>= next).run source)
      ((other >>= next').run source) := by
  obtain ⟨hsource, hevents, houtcome⟩ := h
  rcases hroll : roll.run source with ⟨outcome, rest, events⟩
  rcases hother : other.run source with ⟨outcome', rest', events'⟩
  simp only [hroll, hother] at hsource hevents houtcome hnext
  subst hsource
  cases houtcome with
  | ok hvalue =>
    obtain ⟨hsource, hmore, hend⟩ := hnext _ _ rfl hvalue
    rw [Roll.run_bind_of_ok hroll, Roll.run_bind_of_ok hother]
    exact ⟨hsource, List.rel_append hevents hmore, hend⟩
  | error hfault =>
    rw [Roll.run_bind_of_error hroll, Roll.run_bind_of_error hother]
    exact ⟨rfl, hevents, .error hfault⟩

end Runs

/-! ### Sets -/

namespace DieSet

variable {set other : DieSet} {ceiling : Int} {source : Source}

/-- Two sets have as many dice of one kind, which are rerolled and explode alike. -/
structure DrawnAlike (set other : DieSet) : Prop where
  size : set.size = other.size
  count : set.count = other.count
  exploding : set.exploding = other.exploding
  rerolled : set.rerolled = other.rerolled

/-- Rolling a set goes on until its dice have come to rest. -/
structure Settles (set : DieSet) (ceiling : Int) (source : Source) : Prop where
  guard : set.endless? = none
  told : (set.capEvents ceiling).all Event.isWritable = true
  complete : (set.reading ceiling source).complete = true

/-- What is told of a set whose dice have come to rest is short enough to be written. -/
def Tellable (set : DieSet) (ceiling : Int) (source : Source) : Prop :=
  (Event.rolled set (set.selection ceiling source)).isWritable = true

theorem tellable_iff :
    set.Tellable ceiling source ↔
      Text.fits set.size = true ∧ Text.fits set.signedCount = true ∧
        ∀ value ∈ set.values (set.reading ceiling source).draws, Text.fits value = true := by
  have hperm := Selection.kept_append_dropped_perm set.drop
    (set.values (set.reading ceiling source).draws)
  simp only [Tellable, Event.isWritable, Event.numbers, List.all_cons, Bool.and_eq_true,
    List.all_eq_true]
  simp only [selection, hperm.mem_iff]

theorem run_roll_of_tellable (h : set.Settles ceiling source)
    (htell : set.Tellable ceiling source) :
    (set.roll ceiling).run source =
      ⟨.ok (set.selection ceiling source), (set.reading ceiling source).rest,
        set.capEvents ceiling ++ set.drawEvents ceiling source ++
          [.rolled set (set.selection ceiling source)]⟩ := by
  have hrolls := set.rolls_run_roll ceiling source
  generalize (set.roll ceiling).run source = run at hrolls ⊢
  cases hrolls with
  | endless guard => simp [h.guard] at guard
  | capUnwritable _ long => simp [h.told] at long
  | exhausted _ _ incomplete => simp [h.complete] at incomplete
  | unwritable _ _ _ long => rw [Tellable, long] at htell; cases htell
  | done => rfl

theorem run_roll_of_not_tellable (h : set.Settles ceiling source)
    (hlong : ¬ set.Tellable ceiling source) :
    (set.roll ceiling).run source =
      ⟨.error .tooLong, (set.reading ceiling source).rest,
        set.capEvents ceiling ++ set.drawEvents ceiling source⟩ := by
  have hrolls := set.rolls_run_roll ceiling source
  generalize (set.roll ceiling).run source = run at hrolls ⊢
  cases hrolls with
  | endless guard => simp [h.guard] at guard
  | capUnwritable _ long => simp [h.told] at long
  | exhausted _ _ incomplete => simp [h.complete] at incomplete
  | unwritable => rfl
  | done _ _ _ short => exact absurd short hlong

/-- A set that gives a selection has come to rest and was told of. -/
theorem settles_of_outcome_eq_ok {selection : Selection}
    (h : ((set.roll ceiling).run source).outcome = .ok selection) :
    set.Settles ceiling source ∧ set.Tellable ceiling source ∧
      ((set.roll ceiling).run source).source = (set.reading ceiling source).rest := by
  have hrolls := set.rolls_run_roll ceiling source
  generalize (set.roll ceiling).run source = run at hrolls h ⊢
  cases hrolls with
  | done guard told complete short => exact ⟨⟨guard, told, complete⟩, short, rfl⟩
  | endless | capUnwritable | exhausted | unwritable => cases h

/-- A set whose dice do not come to rest gives a fault, whatever its sign, drop rule and minimum
are. -/
theorem run_roll_of_not_settles (h : ¬ set.Settles ceiling source) :
    (set.roll ceiling).run source =
      match set.endless? with
      | some cause => ⟨.error (.endless set cause), source, []⟩
      | none =>
        if (set.capEvents ceiling).all Event.isWritable then
          ⟨.error .exhausted, (set.reading ceiling source).rest,
            set.capEvents ceiling ++ set.drawEvents ceiling source⟩
        else ⟨.error .tooLong, source, []⟩ := by
  have hrolls := set.rolls_run_roll ceiling source
  generalize (set.roll ceiling).run source = run at hrolls ⊢
  cases hrolls with
  | endless guard => simp only [guard]
  | capUnwritable guard long => simp [guard, long]
  | exhausted guard told => simp only [guard, told, if_true]
  | unwritable guard told complete => exact absurd ⟨guard, told, complete⟩ h
  | done guard told complete => exact absurd ⟨guard, told, complete⟩ h

/-- What happens while the dice of a set are rolled is alike with itself. -/
theorem alike_dice_events {related : DieSet → DieSet → Prop}
    {selected : Selection → Selection → Prop} (set : DieSet) (ceiling : Int) (source : Source) :
    List.Forall₂ (Event.Alike related selected)
      (set.capEvents ceiling ++ set.drawEvents ceiling source)
      (set.capEvents ceiling ++ set.drawEvents ceiling source) := by
  refine List.forall₂_same.mpr fun event hevent => ?_
  rcases List.mem_append.mp hevent with hevent | hevent
  · rw [eq_capped_of_mem_capEvents hevent]
    exact .capped
  · obtain ⟨value, -, rfl⟩ := List.mem_map.mp hevent
    exact .drawn

namespace DrawnAlike

variable (h : set.DrawnAlike other)
include h

theorem symm : other.DrawnAlike set :=
  ⟨h.size.symm, h.count.symm, h.exploding.symm, h.rerolled.symm⟩

theorem endless?_eq : set.endless? = other.endless? := by
  unfold endless? rerolledFaces
  rw [h.size, h.rerolled, h.exploding]

theorem capEvents_eq : set.capEvents ceiling = other.capEvents ceiling := by
  simp only [capEvents, h.size, h.count]

theorem reading_eq : set.reading ceiling source = other.reading ceiling source := by
  have hstops : set.stops = other.stops := by
    funext face
    simp only [stops, explodes, h.size, h.rerolled, h.exploding]
  simp only [reading, diceUnder, h.size, h.count, hstops]

theorem drawEvents_eq : set.drawEvents ceiling source = other.drawEvents ceiling source := by
  simp only [drawEvents, h.reading_eq, h.size]

/-- The sign of a count does not matter to its length. -/
theorem fits_signedCount_eq : Text.fits set.signedCount = Text.fits other.signedCount := by
  rw [← Text.fits_natAbs, ← Text.fits_natAbs other.signedCount]
  exact congrArg (fun n : Nat => Text.fits n) h.count

theorem settles_iff : set.Settles ceiling source ↔ other.Settles ceiling source := by
  constructor
  · rintro ⟨guard, told, complete⟩
    exact ⟨h.endless?_eq ▸ guard, h.capEvents_eq ▸ told, h.reading_eq ▸ complete⟩
  · rintro ⟨guard, told, complete⟩
    exact ⟨h.endless?_eq.symm ▸ guard, h.capEvents_eq.symm ▸ told, h.reading_eq.symm ▸ complete⟩

/-- Sets that are drawn alike are rolled alike, unless only one of them can be told of. -/
theorem alike_run_roll {related : DieSet → DieSet → Prop} {selected : Selection → Selection → Prop}
    (hset : related set other)
    (hselected : selected (set.selection ceiling source) (other.selection ceiling source))
    (htellable : set.Settles ceiling source →
      (set.Tellable ceiling source ↔ other.Tellable ceiling source)) :
    Run.Alike related selected selected ((set.roll ceiling).run source)
      ((other.roll ceiling).run source) := by
  have hdice := @alike_dice_events related selected set ceiling source
  by_cases hsettles : set.Settles ceiling source
  · have hsettles' := h.settles_iff.mp hsettles
    by_cases htell : set.Tellable ceiling source
    · rw [run_roll_of_tellable hsettles htell,
        run_roll_of_tellable hsettles' ((htellable hsettles).mp htell), ← h.capEvents_eq,
        ← h.drawEvents_eq, ← h.reading_eq]
      have hrolled := Event.Alike.rolled hset hselected
      exact ⟨rfl, List.rel_append hdice (.cons hrolled .nil), .ok hselected⟩
    · rw [run_roll_of_not_tellable hsettles htell,
        run_roll_of_not_tellable hsettles' fun htell' => htell ((htellable hsettles).mpr htell'),
        ← h.capEvents_eq, ← h.drawEvents_eq, ← h.reading_eq]
      exact ⟨rfl, hdice, .error .tooLong⟩
  · rw [run_roll_of_not_settles hsettles,
      run_roll_of_not_settles fun hsettles' => hsettles (h.settles_iff.mpr hsettles'),
      ← h.endless?_eq, ← h.capEvents_eq, ← h.drawEvents_eq, ← h.reading_eq]
    split
    · exact ⟨rfl, .nil, .error (.endless hset)⟩
    · split
      · exact ⟨rfl, hdice, .error .exhausted⟩
      · exact ⟨rfl, .nil, .error .tooLong⟩

end DrawnAlike

end DieSet

/-! ### Formulas -/

namespace Formula

variable {ceiling : Int}

/-- As far as both of two formulas are rolled, the sets at one place can be told of in both of them
or in neither. -/
def EquallyTold (ceiling : Int) : List DieSet → List DieSet → Source → Prop
  | set :: sets, other :: others, source =>
    set.Settles ceiling source →
      (set.Tellable ceiling source ↔ other.Tellable ceiling source) ∧
        (set.Tellable ceiling source →
          EquallyTold ceiling sets others (set.reading ceiling source).rest)
  | _, _, _ => True

variable {related : DieSet → DieSet → Prop} {selected : Selection → Selection → Prop}
  {sets others : List DieSet} {source : Source}

/-- Sets of which each can be told of whenever its counterpart can are equally told of. -/
theorem equallyTold_of_forall₂
    (htellable : ∀ {set other}, related set other → ∀ source,
      (set.Tellable ceiling source ↔ other.Tellable ceiling source))
    (hsets : List.Forall₂ related sets others) : EquallyTold ceiling sets others source := by
  induction hsets generalizing source with
  | nil => trivial
  | cons hset _ ih => exact fun _ => ⟨htellable hset source, fun _ => ih⟩

/-- Formulas whose sets are drawn alike and can equally be told of are rolled alike, set by set. -/
theorem alike_run_mapM_roll (hdrawn : ∀ {set other}, related set other → set.DrawnAlike other)
    (hselected : ∀ {set other}, related set other → ∀ source,
      selected (set.selection ceiling source) (other.selection ceiling source))
    (hsets : List.Forall₂ related sets others)
    (htold : EquallyTold ceiling sets others source) :
    Run.Alike related selected (List.Forall₂ selected)
      (Roll.run (sets.mapM fun set => set.roll ceiling) source)
      (Roll.run (others.mapM fun set => set.roll ceiling) source) := by
  induction hsets generalizing source with
  | nil => exact ⟨rfl, .nil, .ok .nil⟩
  | @cons set other sets others hset _ ih =>
    have hroll := (hdrawn hset).alike_run_roll hset (hselected hset source)
      fun hsettles => (htold hsettles).1
    rw [List.mapM_cons, List.mapM_cons]
    refine hroll.bind fun selection choice hok hchosen => ?_
    obtain ⟨hsettles, htell, hsource⟩ := DieSet.settles_of_outcome_eq_ok hok
    have hrest := ih ((htold hsettles).2 htell)
    rw [hsource]
    simp only [← map_eq_pure_bind]
    exact hrest.map fun _ _ hselections => .cons hchosen hselections

end Formula

end DiceRoll
