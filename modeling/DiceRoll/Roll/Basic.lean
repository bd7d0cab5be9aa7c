import DiceRoll.Fault
import DiceRoll.Formula.Basic
import DiceRoll.Roll.Drop
import DiceRoll.Roll.Source

/-!
# Rolling as a computation

A roll consumes a source of randomness, may fail, and leaves a trace of events: each draw, each
warning and each step worth telling, in the order in which they happened. The trace of a failed
roll holds what happened before the failure. What is told is worded at once, so a number that is
too long to be written ends the roll.
-/

namespace DiceRoll

/-- Something that happened during a roll. -/
inductive Event where
  /-- A number was drawn between two bounds. -/
  | drawn (lo hi value : Int)
  /-- A written formula was read. -/
  | parsed (written : Text) (formula : Formula)
  /-- More dice of a size were asked for than the ceiling allows. -/
  | capped (ceiling : Int) (count : Nat) (size : Int)
  /-- A set was rolled. -/
  | rolled (set : DieSet) (selection : Selection)
  /-- An expression was given up. -/
  | skipped (expression : Text) (fault : Fault)
deriving DecidableEq, Repr

/-- The numbers that are written when an event is told. -/
def Event.numbers : Event → List Int
  | .drawn .. => []
  | .parsed _ formula => formula.modifiers
  | .capped ceiling count size => [ceiling, count, size]
  | .rolled set selection => set.size :: set.signedCount :: (selection.kept ++ selection.dropped)
  | .skipped .. => []

/-- Whether the numbers of an event are short enough to be written. -/
def Event.isWritable (event : Event) : Bool :=
  event.numbers.all Text.fits

/-- What a roll left behind. -/
structure Run (α : Type) where
  outcome : Except Fault α
  /-- What is left of the source. -/
  source : Source
  /-- What happened, in order. -/
  events : List Event

/-- A computation that draws from a source. -/
def Roll (α : Type) : Type := Source → Run α

namespace Roll

variable {α β : Type}

/-- Runs a roll on a source. -/
def run (roll : Roll α) (source : Source) : Run α := roll source

/-- The roll that draws nothing and gives a value. -/
protected def pure (value : α) : Roll α := fun source => ⟨.ok value, source, []⟩

/-- One roll after another; a failure of the first is the failure of both. -/
protected def bind (roll : Roll α) (next : α → Roll β) : Roll β := fun source =>
  match roll source with
  | ⟨.ok value, source, events⟩ =>
    let run := next value source
    { run with events := events ++ run.events }
  | ⟨.error fault, source, events⟩ => ⟨.error fault, source, events⟩

/-- The same roll with another value. -/
protected def map (f : α → β) (roll : Roll α) : Roll β := fun source =>
  let run := roll source
  { run with outcome := run.outcome.map f }

instance : Monad Roll where
  pure := Roll.pure
  bind := Roll.bind
  map := Roll.map

theorem ext_run {roll other : Roll α} (h : ∀ source, roll.run source = other.run source) :
    roll = other := funext h

@[simp] theorem run_pure (value : α) (source : Source) :
    (pure value : Roll α).run source = ⟨.ok value, source, []⟩ := rfl

/-- Running a sequence runs its second part on what the first part left. -/
theorem run_bind (roll : Roll α) (next : α → Roll β) (source : Source) :
    (roll >>= next).run source =
      match roll.run source with
      | ⟨.ok value, source, events⟩ =>
        { (next value).run source with events := events ++ ((next value).run source).events }
      | ⟨.error fault, source, events⟩ => ⟨.error fault, source, events⟩ := rfl

/-- A failure of the first part ends a sequence. -/
theorem run_bind_of_error {roll : Roll α} {next : α → Roll β} {source rest : Source} {fault : Fault}
    {events : List Event} (h : roll.run source = ⟨.error fault, rest, events⟩) :
    (roll >>= next).run source = ⟨.error fault, rest, events⟩ := by
  rw [run_bind, h]

/-- What the second part of a sequence does comes after what the first part did. -/
theorem run_bind_of_ok {roll : Roll α} {next : α → Roll β} {source rest : Source} {value : α}
    {events : List Event} (h : roll.run source = ⟨.ok value, rest, events⟩) :
    (roll >>= next).run source =
      { (next value).run rest with events := events ++ ((next value).run rest).events } := by
  rw [run_bind, h]

@[simp] theorem run_map (f : α → β) (roll : Roll α) (source : Source) :
    (f <$> roll).run source =
      { roll.run source with outcome := (roll.run source).outcome.map f } := rfl

instance : LawfulMonad Roll :=
  LawfulMonad.mk' Roll
    (fun roll => ext_run fun source => by
      rw [run_map]
      rcases roll.run source with ⟨_ | value, source, events⟩ <;> rfl)
    (fun value next => ext_run fun source => by simp [run_bind])
    (fun roll next last => ext_run fun source => by
      simp only [run_bind]
      rcases roll.run source with ⟨_ | value, middle, events⟩
      · rfl
      · dsimp only
        rcases (next value).run middle with ⟨_ | other, source, moreEvents⟩
        · rfl
        · simp)
    (fun _ _ => rfl) (fun _ _ => rfl) (fun _ _ => rfl)
    (fun f roll => ext_run fun source => by
      rw [run_bind, run_map]
      rcases roll.run source with ⟨_ | value, source, events⟩
      · rfl
      · simp [Except.map])

/-- Gives up. -/
def fail (fault : Fault) : Roll α := fun source => ⟨.error fault, source, []⟩

/-- Tells that something happened, or fails where a number in it is too long to be written. -/
def tell (event : Event) : Roll Unit := fun source =>
  if event.isWritable then ⟨.ok (), source, [event]⟩ else ⟨.error .tooLong, source, []⟩

/-- The value that was read, or the fault of what cannot be read. -/
def ofRead : Except Malformed α → Roll α
  | .ok value => pure value
  | .error fault => fail (.malformed fault)

@[simp] theorem run_fail (fault : Fault) (source : Source) :
    (fail fault : Roll α).run source = ⟨.error fault, source, []⟩ := rfl

theorem run_tell {event : Event} (h : event.isWritable = true) (source : Source) :
    (tell event).run source = ⟨.ok (), source, [event]⟩ := by
  simp [tell, run, h]

theorem run_tell_of_not_isWritable {event : Event} (h : event.isWritable = false)
    (source : Source) : (tell event).run source = ⟨.error .tooLong, source, []⟩ := by
  simp [tell, run, h]

@[simp] theorem ofRead_ok (value : α) : ofRead (.ok value) = pure value := rfl

@[simp] theorem ofRead_error (fault : Malformed) :
    (ofRead (.error fault) : Roll α) = fail (.malformed fault) := rfl

/-- Rolls a number of times and collects the values. -/
def times (roll : Roll α) : Nat → Roll (List α)
  | 0 => pure []
  | n + 1 => do
    let first ← roll
    (first :: ·) <$> roll.times n

/-- Rolling as often as two numbers together say is rolling for the one and then for the other. -/
theorem times_add (roll : Roll α) (m n : Nat) :
    roll.times (m + n) = do
      let left ← roll.times m
      let right ← roll.times n
      return left ++ right := by
  induction m with
  | zero => simp [times]
  | succ m ih => simp [Nat.succ_add, times, ih]

end Roll

end DiceRoll
