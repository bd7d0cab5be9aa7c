import DiceRoll.Main.Arguments
import Mathlib

/-!
# The reader of the program ignores unknown options

An argument in which no option is found is gathered as an expression, and the rest of the arguments
is read as if it were not there.
-/

namespace DiceRoll

namespace Argument

/-- Letters that name no option stay together. -/
theorem Letters.read_of_forall_not_mem {s : Text} (h : ∀ c ∈ s, c ∉ Command.optionLetters) :
    Letters.read s = { unknown := s } := by
  induction s with
  | nil => rfl
  | cons c rest ih =>
    obtain ⟨hfirst, hrest⟩ := List.forall_mem_cons.mp h
    have hrest := ih hrest
    simp only [Command.optionLetters, List.mem_cons, List.not_mem_nil, or_false, not_or] at hfirst
    unfold Letters.read
    split <;> simp_all

theorem fst_splitValue (s : Text) : (splitValue s).1 = s.takeWhile (· ≠ '=') := by
  rw [splitValue, List.span_eq_takeWhile_dropWhile]
  split
  · rename_i heq
    exact (Prod.mk.inj heq).1.symm
  · rename_i heq
    exact (Prod.mk.inj heq).1.symm

/-- Behind two dashes an unknown name is an expression. -/
theorem read_name {name : Text} (h : name.takeWhile (· ≠ '=') ∉ Command.optionNames) :
    read ('-' :: '-' :: name) = .ok { expression := some ('-' :: '-' :: name) } := by
  rw [← fst_splitValue] at h
  simp only [Command.optionNames, List.map_cons, List.map_nil, List.mem_cons, List.not_mem_nil,
    or_false, not_or] at h
  obtain ⟨hseed, hverbose, hhelp⟩ := h
  unfold read
  simp only [hseed, hverbose, hhelp, if_false]

/-- Behind one dash unknown letters are an expression. -/
theorem read_letters {letters : Text} (hdash : letters.head? ≠ some '-')
    (h : ∀ letter ∈ letters, letter ∉ Command.optionLetters) :
    read ('-' :: letters) = .ok { expression := some ('-' :: letters) } := by
  cases letters with
  | nil => rfl
  | cons first rest =>
    have hfirst : first ≠ '-' := by simpa using hdash
    unfold read
    split
    · simp_all
    · rename_i heq
      cases heq
      rw [Letters.read_of_forall_not_mem h]
      rfl
    · rfl

/-- Without a dash in front an argument is an expression. -/
theorem read_plain {s : Text} (h : s.head? ≠ some '-') : read s = .ok { expression := some s } := by
  unfold read
  split
  · simp at h
  · simp at h
  · rfl

end Argument

/-- An expression in front decides nothing about the seed and about a wish for help. -/
theorem Arguments.ofGathered_cons (argument : Text) (gathered : Gathered) :
    ofGathered (Gathered.cons { expression := some argument } none gathered) =
      (ofGathered gathered).map (Arguments.cons argument) := by
  rcases gathered with ⟨expressions, _ | value, verbose, _ | _⟩
  · rfl
  · rfl
  · simp only [ofGathered, Gathered.cons, Option.or_none, Option.mapM_some]
    cases readSeed value <;> rfl
  · rfl

namespace Command.Reader

/-- What is not the separator and taken apart as an expression is taken as one. -/
theorem takesAsExpression_own {argument : Text} (hseparator : argument ≠ ['-', '-'])
    (hread : Argument.read argument = .ok { expression := some argument }) :
    own.TakesAsExpression argument := by
  intro rest
  have hgather : Arguments.gather (argument :: rest) = (Arguments.gather rest).map
      (Arguments.Gathered.cons { expression := some argument } none) := by
    rw [Arguments.gather, if_neg hseparator, hread]
  have hconsread : Arguments.read (argument :: rest) =
      (Arguments.read rest).map (Arguments.cons argument) := by
    rw [Arguments.read, Arguments.read, hgather]
    cases Arguments.gather rest with
    | error fault => rfl
    | ok gathered => exact Arguments.ofGathered_cons argument gathered
  simp only [own, hconsread]
  cases Arguments.read rest <;> rfl

theorem ignoresUnknown_own : own.IgnoresUnknown where
  nothing := rfl
  plain argument h := takesAsExpression_own (by rintro rfl; simp at h) (Argument.read_plain h)
  name name hsome h := takesAsExpression_own (by simpa using hsome) (Argument.read_name h)
  letters letters hdash h :=
    takesAsExpression_own (by rintro ⟨⟩; simp at hdash) (Argument.read_letters hdash h)

end Command.Reader

end DiceRoll
