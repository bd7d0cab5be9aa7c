import DiceRoll.Text.CaseTable

/-!
# Lower case

Lower-casing goes character by character, with two rules beyond the simple mapping. The dotted
capital I becomes two characters. A capital sigma becomes a final sigma when it ends a word: the
nearest cased character before it exists, and none follows, both seen past the characters that
case rules ignore.
-/

namespace DiceRoll.Text

/-- Whether the range maps this character. -/
def LowerRange.covers (range : LowerRange) (c : Char) : Bool :=
  range.first ≤ c.toNat && c.toNat ≤ range.last && (c.toNat - range.first) % range.step == 0

/-- The simple lower-case form of a character; a character without one is its own. -/
def lowerChar (c : Char) : Char :=
  match lowerRanges.find? (·.covers c) with
  | some range => Char.ofNat (c.toNat + range.offset).toNat
  | none => c

/-- Whether case rules look past a character. -/
def isCaseIgnorable (c : Char) : Bool :=
  inRanges caseIgnorableRanges c

/-- Whether a character has case and decides about its neighbours. -/
def isCased (c : Char) : Bool :=
  inRanges casedRanges c

/-- Whether the first character that case rules do not look past is cased. -/
def beginsCased (s : Text) : Bool :=
  (s.find? fun c => !isCaseIgnorable c).any isCased

/-- The lower-case form of a character between what stands before and after it. -/
def lowerBetween (afterCased : Bool) (c : Char) (rest : Text) : Text :=
  if c = '\u0130' then ['i', '\u0307']
  else if c = '\u03A3' then [if afterCased && !beginsCased rest then '\u03C2' else '\u03C3']
  else [lowerChar c]

/-- Lower-cases a text that continues another; `afterCased` says whether that other ends cased. -/
def lowerFrom (afterCased : Bool) : Text → Text
  | [] => []
  | c :: rest =>
    lowerBetween afterCased c rest ++
      lowerFrom (if isCaseIgnorable c then afterCased else isCased c) rest

/-- The text in lower case. -/
def lower (s : Text) : Text :=
  lowerFrom false s

@[simp] theorem lower_nil : lower [] = [] := rfl

end DiceRoll.Text
