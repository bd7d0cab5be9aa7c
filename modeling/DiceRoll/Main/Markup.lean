import DiceRoll.Command.Console
import DiceRoll.Main.Shortcode

/-!
# A console

A console that stands in for a library of rich text, without colours and widths: tags leave no
trace, and tabs and control characters pass through. A tag is a word in brackets that begins with a
lower-case letter, a number sign, a slash or an at sign. Backslashes in front of a tag escape one
another, and the last of an odd number escapes the tag. Emoji codes in a text with markup become
emoji, in each tag that is escaped and each stretch between tags separately.
-/

namespace DiceRoll.Markup

/-- Whether a character may begin a tag. -/
def beginsTag (c : Char) : Bool :=
  c.isLower || c == '#' || c == '/' || c == '@'

/-- Whether a character may stand in a tag. -/
def inTag (c : Char) : Bool :=
  c != '[' && c != ']'

/-- Splits a tag off the start of a text. -/
def tag? : Text → Option (Text × Text)
  | '[' :: c :: rest =>
    match rest.dropWhile inTag with
    | ']' :: after =>
      if beginsTag c then some ('[' :: c :: rest.takeWhile inTag ++ [']'], after) else none
    | _ => none
  | _ => none

theorem length_lt_of_tag? {s tag after : Text} (h : tag? s = some (tag, after)) :
    after.length < s.length := by
  unfold tag? at h
  split at h
  · rename_i c rest
    have hrest := (List.dropWhile_suffix (l := rest) inTag).length_le
    split at h
    · rename_i heq
      rw [heq] at hrest
      split at h
      · cases h
        simp only [List.length_cons] at hrest ⊢
        omega
      · cases h
    · cases h
  · cases h

/-- A stretch of a text with markup. -/
inductive Stretch where
  | plain (s : Text)
  /-- A tag with the number of backslashes in front of it. -/
  | tag (backslashes : Nat) (word : Text)
deriving DecidableEq, Repr

/-- The stretches of a text. `plain` holds the characters since the last tag, the last one first. -/
def stretches (plain : Text) : Text → List Stretch
  | [] => [.plain plain.reverse]
  | c :: rest =>
    match _h : tag? (c :: rest) with
    | some (tag, after) =>
      .plain (plain.dropWhile (· == '\\')).reverse ::
        .tag (plain.takeWhile (· == '\\')).length tag :: stretches [] after
    | none => stretches (c :: plain) rest
termination_by s => s.length
decreasing_by
  · exact length_lt_of_tag? ‹_›
  · simp

/-- The stretch with its tag escaped, if it is one. -/
def Stretch.escaped : Stretch → Text
  | .plain s => s
  | .tag backslashes word => List.replicate (2 * backslashes + 1) '\\' ++ word

/-- The text with its tags escaped. -/
def escape (s : Text) : Text :=
  (stretches [] s).flatMap Stretch.escaped

/-- The text without the backslashes that stand in front of opening brackets. -/
def openBrackets : Text → Text
  | '\\' :: '[' :: rest => '[' :: openBrackets rest
  | c :: rest => c :: openBrackets rest
  | [] => []

/-- The stretch as it is shown. -/
def Stretch.shown : Stretch → Text
  | .plain s => Shortcode.replace (openBrackets s)
  | .tag backslashes word =>
    List.replicate (backslashes / 2) '\\' ++
      if backslashes % 2 = 1 then Shortcode.replace word else []

/-- The text as it is shown. -/
def shown (s : Text) : Text :=
  (stretches [] s).flatMap Stretch.shown

end DiceRoll.Markup

namespace DiceRoll.Command.Console

/-- The console that shows markup without colours, and never fails to print. -/
def own : Console where
  print
    | .styled text _, _ => some text
    | .markup text, _ => some (Markup.shown text)
  escape := Markup.escape

theorem showsAscii_own : own.ShowsAscii := fun _ _ _ _ => rfl

end DiceRoll.Command.Console
