/-!
# Text

Text is a list of characters, so that readers and writers recurse on it. A property of characters
is a list of closed ranges of code points.
-/

namespace DiceRoll

/-- A text, one character after another. -/
abbrev Text := List Char

namespace Text

/-- Whether a character lies in one of the closed ranges of code points. -/
def inRanges (ranges : List (Nat × Nat)) (c : Char) : Bool :=
  ranges.any fun range => range.1 ≤ c.toNat && c.toNat ≤ range.2

theorem inRanges_eq_true_iff {ranges : List (Nat × Nat)} {c : Char} :
    inRanges ranges c = true ↔ ∃ range ∈ ranges, range.1 ≤ c.toNat ∧ c.toNat ≤ range.2 := by
  simp [inRanges]

end Text

end DiceRoll
