import DiceRoll.Roll.DieSet
import Mathlib

/-!
# What rolling a set comes to

A set that passes the guard is told of if there are too many dice, its faces are drawn, and it is
told of again when all of them were. Each of these steps can be the last one.
-/

namespace DiceRoll.DieSet

variable {set : DieSet} {ceiling : Int}

/-- The event of more dice being asked for than a ceiling allows, if so. -/
def capEvents (set : DieSet) (ceiling : Int) : List Event :=
  if ceiling < set.count then [.capped ceiling set.count set.size] else []

theorem eq_capped_of_mem_capEvents {event : Event} (h : event ∈ set.capEvents ceiling) :
    event = .capped ceiling set.count set.size := by
  unfold capEvents at h
  split at h
  · exact List.mem_singleton.mp h
  · cases h

/-- An excess of dice can be told of when the numbers that tell it are short enough. -/
theorem all_isWritable_capEvents_iff :
    (set.capEvents ceiling).all Event.isWritable = true ↔
      (ceiling < set.count →
        Text.fits ceiling = true ∧ Text.fits set.count = true ∧ Text.fits set.size = true) := by
  unfold capEvents
  split <;> simp_all [Event.isWritable, Event.numbers]

/-- The draws for a set under a ceiling. -/
def reading (set : DieSet) (ceiling : Int) (source : Source) : Source.Reading :=
  source.read 1 set.size set.stops (set.diceUnder ceiling)

/-- The events of the draws for a set. -/
def drawEvents (set : DieSet) (ceiling : Int) (source : Source) : List Event :=
  (set.reading ceiling source).draws.map (Event.drawn 1 set.size)

/-- The selection from the draws for a set. -/
def selection (set : DieSet) (ceiling : Int) (source : Source) : Selection :=
  Selection.ofDrop set.drop (set.values (set.reading ceiling source).draws)

/-- The runs that rolling a set can come to. -/
inductive Rolls (set : DieSet) (ceiling : Int) (source : Source) : Run Selection → Prop where
  /-- The set could never finish. -/
  | endless {cause : Endless} (guard : set.endless? = some cause) :
    Rolls set ceiling source ⟨.error (.endless set cause), source, []⟩
  /-- The excess of dice cannot be told of. -/
  | capUnwritable (guard : set.endless? = none)
      (long : (set.capEvents ceiling).all Event.isWritable = false) :
    Rolls set ceiling source ⟨.error .tooLong, source, []⟩
  /-- The draws run out. -/
  | exhausted (guard : set.endless? = none)
      (told : (set.capEvents ceiling).all Event.isWritable = true)
      (incomplete : (set.reading ceiling source).complete = false) :
    Rolls set ceiling source
      ⟨.error .exhausted, (set.reading ceiling source).rest,
        set.capEvents ceiling ++ set.drawEvents ceiling source⟩
  /-- The values cannot be told of. -/
  | unwritable (guard : set.endless? = none)
      (told : (set.capEvents ceiling).all Event.isWritable = true)
      (complete : (set.reading ceiling source).complete = true)
      (long : (Event.rolled set (set.selection ceiling source)).isWritable = false) :
    Rolls set ceiling source
      ⟨.error .tooLong, (set.reading ceiling source).rest,
        set.capEvents ceiling ++ set.drawEvents ceiling source⟩
  /-- All dice are rolled. -/
  | done (guard : set.endless? = none)
      (told : (set.capEvents ceiling).all Event.isWritable = true)
      (complete : (set.reading ceiling source).complete = true)
      (short : (Event.rolled set (set.selection ceiling source)).isWritable = true) :
    Rolls set ceiling source
      ⟨.ok (set.selection ceiling source), (set.reading ceiling source).rest,
        set.capEvents ceiling ++ set.drawEvents ceiling source ++
          [.rolled set (set.selection ceiling source)]⟩

/-- Telling of a ceiling leaves the event of it, or fails where it cannot be written. -/
theorem run_tellCapped (source : Source) :
    (set.tellCapped ceiling).run source =
      if (set.capEvents ceiling).all Event.isWritable then ⟨.ok (), source, set.capEvents ceiling⟩
      else ⟨.error .tooLong, source, []⟩ := by
  unfold tellCapped capEvents
  by_cases hcap : ceiling < set.count
  · simp [hcap, Roll.tell, Roll.run]
  · simp [hcap]

theorem run_drawFaces (source : Source) :
    (set.drawFaces (set.diceUnder ceiling)).run source =
      ⟨if (set.reading ceiling source).complete then .ok (set.reading ceiling source).draws
        else .error .exhausted,
        (set.reading ceiling source).rest, set.drawEvents ceiling source⟩ := rfl

/-- Telling of what was selected leaves the event of it, or fails where it cannot be written. -/
theorem run_tellRolled (selection : Selection) (source : Source) :
    (do Roll.tell (.rolled set selection); return selection : Roll Selection).run source =
      if (Event.rolled set selection).isWritable then
        ⟨.ok selection, source, [.rolled set selection]⟩
      else ⟨.error .tooLong, source, []⟩ := by
  rw [Roll.run_bind]
  by_cases short : (Event.rolled set selection).isWritable = true
  · simp [Roll.run_tell short, short]
  · rw [Roll.run_tell_of_not_isWritable (by simpa using short), if_neg short]

/-- Rolling a set comes to one of these runs. -/
theorem rolls_run_roll (set : DieSet) (ceiling : Int) (source : Source) :
    Rolls set ceiling source ((set.roll ceiling).run source) := by
  unfold roll
  rcases guard : set.endless? with _ | cause
  · dsimp only
    rw [Roll.run_bind, run_tellCapped]
    by_cases told : (set.capEvents ceiling).all Event.isWritable = true
    · simp only [told, if_true]
      rw [Roll.run_bind, run_drawFaces]
      by_cases complete : (set.reading ceiling source).complete = true
      · simp only [complete, if_true, run_tellRolled]
        rw [← selection]
        by_cases short : (Event.rolled set (set.selection ceiling source)).isWritable = true
        · simp only [short, if_true, ← List.append_assoc]
          exact .done guard told complete short
        · simp only [short, Bool.false_eq_true, if_false, List.append_nil]
          exact .unwritable guard told complete (by simpa using short)
      · simp only [complete]
        exact .exhausted guard told (by simpa using complete)
    · simp only [told]
      exact .capUnwritable guard (by simpa using told)
  · exact .endless guard

end DiceRoll.DieSet
