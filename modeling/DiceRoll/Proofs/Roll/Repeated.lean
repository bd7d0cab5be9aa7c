import DiceRoll.Proofs.Formula.Expressible
import DiceRoll.Proofs.Formula.Readable
import DiceRoll.Proofs.Roll.Formula
import Mathlib

/-!
# How often a formula is rolled

The letter x is no part of a readable formula, so the first one in an expression begins its count.
Counts behind one formula add up: rolling for their sum is rolling for the one and then, from what
is left of the source, for the other. Only that the formula was read is told of once for the sum and
twice for the parts, so the laws of counts leave it aside.
-/

namespace DiceRoll

/-- Readable formulas are spelled without the letter x. -/
theorem Formula.x_not_mem_lower {written : Text} {formula : Formula}
    (h : parse written = .ok formula) : 'x' ∉ Text.lower written := fun hx =>
  absurd (isGlyph_of_mem_lower h 'x' hx) (by decide)

namespace Repetition

/-- A formula with a count behind it. -/
def write (written : Text) (times : Int) : Text :=
  written ++ 'x' :: Text.ofInt times

/-- A count behind a readable formula is split off. -/
theorem read_append {written count : Text} {formula : Formula} {times : Int}
    (hparse : Formula.parse written = .ok formula) (hcount : Text.literal? count = some times) :
    read (written ++ 'x' :: count) = .ok ⟨Text.lower written, times⟩ := by
  have hsigma : '\u03A3' ∉ written :=
    Text.sigma_not_mem_of_lowerFrom (Formula.isGlyph_of_mem_lower hparse)
  have hsettled : ∀ c ∈ 'x' :: count, Text.IsSettled c :=
    List.forall_mem_cons.mpr ⟨Text.isSettled_of_isPlain (by decide), fun c hc =>
      Text.isSettled_of_isGlyph (Text.isGlyph_of_literal? hcount c hc)⟩
  have hlower : Text.lower (written ++ 'x' :: count) = Text.lower written ++ 'x' :: count :=
    Text.lowerFrom_append hsigma hsettled false
  have hspan : (Text.lower written ++ 'x' :: count).span (· ≠ 'x') =
      (Text.lower written, 'x' :: count) :=
    span_ne_eq_cons_iff.mpr ⟨rfl, Formula.x_not_mem_lower hparse, rfl⟩
  simp only [read, hlower, hspan, hcount]

end Repetition

/-! ### What is told of reading -/

/-- Whether an event is that a formula was read. -/
def Event.isParsed : Event → Bool
  | .parsed .. => true
  | _ => false

namespace Roll

variable {α β : Type}

/-- The same roll, except that it does not tell of reading a formula. -/
def quiet (roll : Roll α) : Roll α := fun source =>
  let run := roll.run source
  { run with events := run.events.filter fun event => !event.isParsed }

theorem run_quiet (roll : Roll α) (source : Source) :
    roll.quiet.run source = { roll.run source with
      events := (roll.run source).events.filter fun event => !event.isParsed } := rfl

@[simp] theorem quiet_pure (value : α) : (pure value : Roll α).quiet = pure value := rfl

/-- A sequence is quiet when both of its parts are. -/
theorem quiet_bind (roll : Roll α) (next : α → Roll β) :
    (roll >>= next).quiet = roll.quiet >>= fun value => (next value).quiet := by
  refine ext_run fun source => ?_
  rw [run_quiet, run_bind, run_bind, run_quiet]
  rcases roll.run source with ⟨_ | value, middle, events⟩
  · rfl
  · simp [run_quiet]

theorem quiet_map (f : α → β) (roll : Roll α) : (f <$> roll).quiet = f <$> roll.quiet := rfl

/-- Nothing is told of reading a formula whose modifiers can be written. -/
theorem quiet_tell_parsed {written : Text} {formula : Formula} (h : formula.Expressible) :
    (tell (.parsed written formula)).quiet = pure () := by
  have hwritable : (Event.parsed written formula).isWritable = true :=
    List.all_eq_true.mpr h.modifiers
  refine ext_run fun source => ?_
  rw [run_quiet, run_tell hwritable]
  rfl

/-! ### Counts -/

variable {written count : Text} {formula : Formula} {times : Int}

/-- Quietly, a readable formula with a count is rolled as often as the count says. -/
theorem quiet_expression_append (hparse : Formula.parse written = .ok formula)
    (hcount : Text.literal? count = some times) (ceiling : Int) :
    (expression (written ++ 'x' :: count) ceiling).quiet =
      ((formula.roll ceiling).times times.toNat).quiet := by
  rw [expression_eq (Repetition.read_append hparse hcount) (Formula.parse_lower hparse), quiet_bind,
    quiet_tell_parsed (Formula.expressible_of_parse hparse), pure_bind]

/-- Quietly, a readable formula with a numeral behind it is rolled that many times. -/
theorem quiet_expression_write (hparse : Formula.parse written = .ok formula) {n : Nat}
    (hn : Text.fits n = true) (ceiling : Int) :
    (expression (Repetition.write written n) ceiling).quiet =
      ((formula.roll ceiling).times n).quiet := by
  rw [Repetition.write, quiet_expression_append hparse (Text.literal?_ofInt hn), Int.toNat_natCast]

/-- The laws of the counts behind a formula. -/
structure Repeats (written : Text) (ceiling : Int) : Prop where
  /-- Rolling for a sum is rolling for the one number and then for the other. -/
  add (m n : Nat) : Text.fits (m + n : Nat) = true →
    (expression (Repetition.write written (m + n : Nat)) ceiling).quiet = quiet do
      let left ← expression (Repetition.write written m) ceiling
      let right ← expression (Repetition.write written n) ceiling
      return left ++ right
  /-- Without a count the formula is rolled once. -/
  one : expression written ceiling = expression (Repetition.write written 1) ceiling
  /-- Rolling once gives a list of one result. -/
  singleton : (expression written ceiling).quiet =
    (([·]) <$> Roll.formula written ceiling).quiet
  /-- A count below one draws nothing and gives nothing. -/
  nothing (count : Text) (times : Int) : Text.literal? count = some times → times ≤ 0 →
    (expression (written ++ 'x' :: count) ceiling).quiet = pure []
  /-- The formula cannot be mistaken for one with a count. -/
  plain : 'x' ∉ written ∧ 'X' ∉ written

end Roll

end DiceRoll
