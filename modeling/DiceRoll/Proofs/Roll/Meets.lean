import DiceRoll.Proofs.Roll.DieSet

/-!
# What holds of every roll

A roll meets a specification when, on every source, it ends with a value of one kind or a fault of
one kind, provided that all its events are allowed. The rules below follow the ways in which rolls
are put together.
-/

namespace DiceRoll

variable {α β : Type} {allowed : Event → Prop} {bad : Fault → Prop}

/-- A drawn number lies between the bounds it was asked for. -/
def Event.InRange : Event → Prop
  | .drawn lo hi value => lo ≤ value ∧ value ≤ hi
  | _ => True

/-- A run ended with a good value or a permitted fault. -/
def Run.Ends (run : Run α) (good : α → Prop) (bad : Fault → Prop) : Prop :=
  match run.outcome with
  | .ok value => good value
  | .error fault => bad fault

namespace Roll

/-- Runs whose events are all allowed end with a good value or a permitted fault. -/
def Meets (allowed : Event → Prop) (roll : Roll α) (good : α → Prop) (bad : Fault → Prop) : Prop :=
  ∀ source, (∀ event ∈ (roll.run source).events, allowed event) → (roll.run source).Ends good bad

theorem Meets.mono {roll : Roll α} {good good' : α → Prop} (h : Meets allowed roll good bad)
    (hgood : ∀ value, good value → good' value) : Meets allowed roll good' bad := by
  intro source hevents
  have hends := h source hevents
  unfold Run.Ends at hends ⊢
  split at hends
  · exact hgood _ hends
  · exact hends

/-- A run whose events are all allowed gives a good value, if it gives one. -/
theorem Meets.good_of_events {roll : Roll α} {good : α → Prop} (h : Meets allowed roll good bad)
    {source : Source} {value : α} (hevents : ∀ event ∈ (roll.run source).events, allowed event)
    (hvalue : (roll.run source).outcome = .ok value) : good value := by
  have hends := h source hevents
  rwa [Run.Ends, hvalue] at hends

/-- A run that gives a value gives a good one, if all events are allowed. -/
theorem Meets.of_outcome_eq_ok {roll : Roll α} {good : α → Prop}
    (h : Meets (fun _ => True) roll good bad) {source : Source} {value : α}
    (hvalue : (roll.run source).outcome = .ok value) : good value :=
  h.good_of_events (fun _ _ => trivial) hvalue

theorem meets_pure {value : α} {good : α → Prop} (h : good value) :
    Meets allowed (pure value) good bad := fun _ _ => h

theorem meets_fail {fault : Fault} {good : α → Prop} (h : bad fault) :
    Meets allowed (fail fault) good bad := fun _ _ => h

theorem meets_tell {event : Event} (h : event.isWritable = false → bad .tooLong) :
    Meets allowed (tell event) (fun _ => event.isWritable = true) bad := by
  intro source _
  cases hwritable : event.isWritable with
  | true => simp [run_tell hwritable, Run.Ends]
  | false => simpa [run_tell_of_not_isWritable hwritable, Run.Ends] using h hwritable

theorem meets_ofRead {read : Except Malformed α} (h : ∀ fault, bad (.malformed fault)) :
    Meets allowed (ofRead read) (fun value => read = .ok value) bad := by
  cases read with
  | ok value => exact meets_pure rfl
  | error fault => exact meets_fail (h fault)

/-- What follows a roll may rely on what the roll gives. -/
theorem Meets.bind {roll : Roll α} {next : α → Roll β} {good : α → Prop} {good' : β → Prop}
    (h : Meets allowed roll good bad)
    (hnext : ∀ value, good value → Meets allowed (next value) good' bad) :
    Meets allowed (roll >>= next) good' bad := by
  intro source hevents
  have hends := h source
  rw [run_bind] at hevents ⊢
  rcases hrun : roll.run source with ⟨fault | value, middle, events⟩
  · simp only [hrun] at hevents hends
    exact hends hevents
  · simp only [hrun, List.mem_append] at hevents hends
    exact hnext value (hends fun event hevent => hevents event (.inl hevent)) middle
      fun event hevent => hevents event (.inr hevent)

theorem Meets.map {roll : Roll α} {f : α → β} {good : α → Prop} {good' : β → Prop}
    (h : Meets allowed roll good bad) (hf : ∀ value, good value → good' (f value)) :
    Meets allowed (f <$> roll) good' bad := by
  rw [map_eq_pure_bind]
  exact h.bind fun value hvalue => meets_pure (hf value hvalue)

/-- Rolling item by item gives a good value for each item. -/
theorem meets_mapM {roll : α → Roll β} {items : List α} {good : α → β → Prop}
    (h : ∀ item ∈ items, Meets allowed (roll item) (good item) bad) :
    Meets allowed (items.mapM roll) (List.Forall₂ good items) bad := by
  induction items with
  | nil => exact meets_pure .nil
  | cons first rest ih =>
    obtain ⟨hfirst, hrest⟩ := List.forall_mem_cons.mp h
    rw [List.mapM_cons]
    refine hfirst.bind fun value hvalue => (ih hrest).bind fun values hvalues => ?_
    exact meets_pure (.cons hvalue hvalues)

/-- Rolling again and again gives good values only. -/
theorem Meets.times {roll : Roll α} {good : α → Prop} (h : Meets allowed roll good bad) (n : Nat) :
    Meets allowed (roll.times n) (fun values => ∀ value ∈ values, good value) bad := by
  induction n with
  | zero => exact meets_pure (by simp)
  | succ n ih =>
    refine h.bind fun first hfirst => ih.map fun values hvalues => ?_
    exact List.forall_mem_cons.mpr ⟨hfirst, hvalues⟩

end Roll

end DiceRoll
