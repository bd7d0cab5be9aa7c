import DiceRoll.Proofs.Main.Settings
import DiceRoll.Proofs.Settings.Overridden
import DiceRoll.Settings.Memory
import Mathlib

/-!
# What the accessor answers

An access answers with the first settings that were evaluated since the memory was last emptied. As
long as there are none, it answers with what is wrong with its own sources: each setting whose
deciding text does not fit is named, and no other. An attempt that failed leaves no trace.
-/

namespace DiceRoll.Settings

/-- The accesses since the memory was last emptied, the one that emptied it included. -/
def sinceForgotten : List Access → List Access
  | [] => []
  | first :: rest => if rest.any (·.forget) then sinceForgotten rest else first :: rest

/-- An access that empties the memory is the first since, and any other is one more. -/
theorem sinceForgotten_append_singleton {accesses : List Access} {last : Access} :
    sinceForgotten (accesses ++ [last]) =
      if last.forget then [last] else sinceForgotten accesses ++ [last] := by
  induction accesses with
  | nil => cases hforget : last.forget <;> rfl
  | cons first rest ih =>
    rw [List.cons_append, sinceForgotten, ih, List.any_append, sinceForgotten]
    cases hforget : last.forget
    · cases hany : rest.any (·.forget) <;> simp [hforget]
    · simp [hforget]

namespace Evaluator

variable (evaluator : Evaluator)

/-- The settings that evaluating the sources of an access gives, if it gives any. -/
def settings? (access : Access) : Memory :=
  (evaluator.evaluate access.sources).toOption

/-- The first settings that were evaluated since the memory was last emptied. -/
def firstRead (accesses : List Access) : Memory :=
  (sinceForgotten accesses).findSome? evaluator.settings?

/-- The answer that is due to an access while some settings are known, or none are. -/
def answerFrom (known : Memory) (last : Access) : Answer :=
  match known with
  | some settings => .ok settings
  | none => evaluator.evaluate last.sources

/-- The answer that is due to an access after others: the first settings evaluated since the memory
was last emptied, this access included, or else what evaluating its own sources gives. -/
def dueAnswer (before : List Access) (last : Access) : Answer :=
  evaluator.answerFrom (evaluator.firstRead (before ++ [last])) last

/-- What is remembered after a sequence of accesses. -/
def after (memory : Memory) (accesses : List Access) : Memory :=
  accesses.foldl (fun memory next => (evaluator.access memory next).2) memory

variable {evaluator} {memory : Memory} {accesses : List Access} {last : Access}

theorem firstRead_append_singleton :
    evaluator.firstRead (accesses ++ [last]) =
      (if last.forget then none else evaluator.firstRead accesses).or
        (evaluator.settings? last) := by
  rw [firstRead, sinceForgotten_append_singleton]
  split
  · simp
  · rw [List.findSome?_append, ← firstRead, List.findSome?_singleton]

/-- An access remembers what it has not been told to forget, or what it evaluates, and answers it.
-/
theorem access_eq :
    evaluator.access memory last =
      let known := (if last.forget then none else memory).or (evaluator.settings? last)
      (evaluator.answerFrom known last, known) := by
  unfold access
  rcases (if last.forget then none else memory) with _ | settings
  · unfold settings? answerFrom
    cases evaluator.evaluate last.sources <;> rfl
  · rfl

/-- The first settings that were evaluated since the memory was last emptied are remembered. -/
theorem after_none (accesses : List Access) :
    evaluator.after none accesses = evaluator.firstRead accesses := by
  induction accesses using List.reverseRecOn with
  | nil => rfl
  | append_singleton accesses last ih =>
    rw [after, List.foldl_concat, ← after, ih, access_eq, firstRead_append_singleton]

/-- An access is answered from what is remembered after those before it. -/
theorem answers_getElem? {i : ℕ} :
    (evaluator.answers memory accesses)[i]? =
      accesses[i]?.map fun last =>
        (evaluator.access (evaluator.after memory (accesses.take i)) last).1 := by
  induction accesses generalizing memory i with
  | nil => rfl
  | cons first rest ih =>
    cases i with
    | zero => rfl
    | succ i => exact ih

/-- Where an answer is a failure, its own access failed on what is remembered before it. -/
theorem exists_access_of_answers_eq_error {i : ℕ} {complaints : List Complaint}
    (h : (evaluator.answers memory accesses)[i]? = some (.error complaints)) :
    ∃ last, accesses[i]? = some last ∧
      (evaluator.access (evaluator.after memory (accesses.take i)) last).1 = .error complaints := by
  rw [answers_getElem?] at h
  exact Option.map_eq_some_iff.mp h

/-- Later accesses are answered from what is remembered after the earlier ones. -/
theorem drop_answers {n : ℕ} :
    (evaluator.answers memory accesses).drop n =
      evaluator.answers (evaluator.after memory (accesses.take n)) (accesses.drop n) := by
  induction accesses generalizing memory n with
  | nil => cases n <;> rfl
  | cons first rest ih =>
    cases n with
    | zero => rfl
    | succ n => exact ih

/-- An access that fails has failed to evaluate its own sources, and leaves nothing to remember. -/
theorem forgets_of_error {complaints : List Complaint}
    (h : (evaluator.access memory last).1 = .error complaints) :
    evaluator.evaluate last.sources = .error complaints ∧
      (evaluator.access memory last).2 = none := by
  rw [access_eq] at h ⊢
  simp only [answerFrom] at h ⊢
  split at h
  · cases h
  · rename_i hknown
    exact ⟨h, hknown⟩

/-- Two accesses forget alike, and what they read from differs in overridden entries at most. -/
structure AgreeWith (evaluator : Evaluator) (first other : Access) : Prop where
  forget : first.forget = other.forget
  sources : evaluator.AgreeUncovered first.sources other.sources

theorem AgreeWith.refl (access : Access) : evaluator.AgreeWith access access := ⟨rfl, rfl, rfl⟩

/-- Overridden entries change no answer of a sequence of accesses. -/
theorem Lawful.answers_congr (h : evaluator.Lawful) {others : List Access}
    (hagree : List.Forall₂ evaluator.AgreeWith accesses others) :
    evaluator.answers memory accesses = evaluator.answers memory others := by
  induction hagree generalizing memory with
  | nil => rfl
  | @cons first other _ _ hfirst _ ih =>
    have haccess : evaluator.access memory first = evaluator.access memory other := by
      rw [access, access, hfirst.forget, h.evaluate_eq hfirst.sources]
    simp only [answers, haccess, ih]

/-- How a sequence of accesses is answered. -/
structure Answered (evaluator : Evaluator) (accesses : List Access) : Prop where
  /-- Each is given the first settings evaluated since the memory was last emptied, itself included,
  or else what evaluating its own sources gives. -/
  due : ∀ i : ℕ, (evaluator.answers none accesses)[i]? =
    accesses[i]?.map (evaluator.dueAnswer (accesses.take i))
  /-- What comes after a failed attempt is answered as if nothing had been before it. -/
  afresh : ∀ (i : ℕ) (complaints : List Complaint),
    (evaluator.answers none accesses)[i]? = some (.error complaints) →
      (evaluator.answers none accesses).drop (i + 1) =
        evaluator.answers none (accesses.drop (i + 1))
  /-- A failed attempt names the settings whose deciding text does not fit, and no others. -/
  named : ∀ (i : ℕ) (complaints : List Complaint),
    (evaluator.answers none accesses)[i]? = some (.error complaints) →
      ∃ last, accesses[i]? = some last ∧ ∀ field, field ∈ complaints.map (·.field) ↔
        ∃ text, evaluator.text? last.sources field = some text ∧ evaluator.Invalid field text
  /-- Entries that the environment overrides change nothing while the other entries stay the
  same. -/
  unaffected : ∀ others, List.Forall₂ evaluator.AgreeWith accesses others →
    evaluator.answers none accesses = evaluator.answers none others

/-- Every sequence of accesses is answered so, if evaluations are lawful. -/
theorem answered_accesses (h : evaluator.Lawful) (accesses : List Access) :
    evaluator.Answered accesses where
  due i := by
    rw [answers_getElem?]
    refine Option.map_congr fun last _ => ?_
    rw [access_eq, after_none, dueAnswer, firstRead_append_singleton]
  afresh i complaints hfailed := by
    obtain ⟨last, hlast, herror⟩ := exists_access_of_answers_eq_error hfailed
    have hnone : evaluator.after none (accesses.take (i + 1)) = none := by
      rw [List.take_add_one, hlast, Option.toList_some, after, List.foldl_concat]
      exact (forgets_of_error herror).2
    rw [drop_answers, hnone]
  named i complaints hfailed := by
    obtain ⟨last, hlast, herror⟩ := exists_access_of_answers_eq_error hfailed
    have hevaluate := (forgets_of_error herror).1
    refine ⟨last, hlast, fun field => ?_⟩
    rw [← h.rejects_iff, Rejects]
    simp [hevaluate]
  unaffected _ hagree := h.answers_congr hagree

/-- A text that does not fit fails, a text of the file that does not fit is overridden, the ceiling
that was read is remembered, and the defaults are evaluated after it is forgotten. -/
theorem answered_overridden_misfit :
    own.Lawful ∧ own.answers none
      [{ sources := { environment := [("diceline_seed".toList, "x".toList)] } },
        { sources :=
            { environment := [("DICELINE_MAX_DICE_PER_SET".toList, "8".toList)]
              file := some "diceline_max_dice_per_set=x".toList } },
        { sources := { environment := [("DICELINE_DEBUG".toList, "x".toList)] } },
        { forget := true }] =
      [.error [⟨.seed, .integer⟩], .ok { maxDicePerSet := 8 }, .ok { maxDicePerSet := 8 },
        .ok {}] := by
  refine ⟨lawful_own, ?_⟩
  -- Without the entry of the file the answers are the same.
  rw [(answered_accesses lawful_own _).unaffected
    [{ sources := { environment := [("diceline_seed".toList, "x".toList)] } },
      { sources := { environment := [("DICELINE_MAX_DICE_PER_SET".toList, "8".toList)] } },
      { sources := { environment := [("DICELINE_DEBUG".toList, "x".toList)] } },
      { forget := true }] ?_]
  · decide +kernel
  · have huncovered : own.uncovered
        { environment := [("DICELINE_MAX_DICE_PER_SET".toList, "8".toList)]
          file := some "diceline_max_dice_per_set=x".toList } = [] := by
      decide +kernel
    exact .cons (.refl _) (.cons ⟨rfl, rfl, huncovered⟩ (.cons (.refl _) (.cons (.refl _) .nil)))

/-- A line under a name that the environment overrides may reach the answer of a lawful evaluation
all the same, where another line refers to it. -/
theorem answers_overridden_reference :
    let environment := [("DICELINE_MAX_DICE_PER_SET".toList, "8".toList)]
    let line := "DICELINE_MAX_DICE_PER_SET=7\n".toList
    let rest := "DICELINE_SEED=$\x7bDICELINE_MAX_DICE_PER_SET\x7d\n".toList
    own.Lawful ∧ overrides environment "DICELINE_MAX_DICE_PER_SET".toList = true ∧
      own.answers none [{ sources := { environment, file := some rest } }] =
        [.ok { maxDicePerSet := 8, seed := some 8 }] ∧
      own.answers none [{ sources := { environment, file := some (line ++ rest) } }] =
        [.ok { maxDicePerSet := 8, seed := some 7 }] :=
  ⟨lawful_own, by decide +kernel⟩

end Evaluator

end DiceRoll.Settings
