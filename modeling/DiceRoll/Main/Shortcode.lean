import DiceRoll.Main.EmojiTable
import DiceRoll.Text.Blank
import DiceRoll.Text.Lower

/-!
# Emoji codes

In a message the name of an emoji between two colons stands for the emoji. Behind the name a minus
sign and the word emoji or text may ask for its colourful or its plain presentation. Codes hold no
white space, and what looks like a code but names no emoji stays as it is.
-/

namespace DiceRoll.Shortcode

/-- The emoji with a name, in whatever case. -/
def emoji? (name : Text) : Option Text :=
  (Text.emojiNames.lookup (String.ofList (Text.lower name))).map String.toList

/-- What stands between the colons of a code, split into the name and the selector of the
presentation that is asked for, which is empty when none is. -/
def splitPresentation (s : Text) : Text × Text :=
  if "-emoji".toList.isSuffixOf s then (s.take (s.length - 6), ['\ufe0f'])
  else if "-text".toList.isSuffixOf s then (s.take (s.length - 5), ['\ufe0e'])
  else (s, [])

/-- The emoji that a code stands for, given what stands between its colons. -/
def meaning? (s : Text) : Option Text :=
  let (name, selector) := splitPresentation s
  (emoji? name).map (· ++ selector)

/-- Whether a character may stand between the colons of a code. -/
def inCode (c : Char) : Bool :=
  c != ':' && !Text.isSpace c

/-- The text with its codes replaced, read from the left. -/
def replace : Text → Text
  | [] => []
  | c :: rest =>
    if c = ':' then
      match _h : rest.dropWhile inCode with
      | ':' :: after =>
        let code := rest.takeWhile inCode
        (meaning? code).getD (':' :: code ++ [':']) ++ replace after
      | _ => c :: replace rest
    else c :: replace rest
termination_by s => s.length
decreasing_by
  · have := (List.dropWhile_suffix (l := rest) inCode).length_le
    simp_all only [List.length_cons]
    omega
  · simp
  · simp

end DiceRoll.Shortcode
