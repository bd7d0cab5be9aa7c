import DiceRoll.Text.Basic

/-!
# Consoles

The command prints through a console, which is not part of it. A console shows a text in a style as
it stands, and in a text with markup it acts on the markup, so that literal text has to be escaped.
Whatever else a console makes of a text is left to it, and so is whether the output can take the
text at all. All that is supposed of it is that what is put out depends on nothing but what is to
be printed.
-/

namespace DiceRoll

/-- Whether all characters are printable ones of ASCII; the space is. -/
def Text.isPrintableAscii (s : Text) : Bool :=
  s.all fun c => ' ' ≤ c && c ≤ '~'

namespace Command

/-- Something to be printed. -/
inductive Renderable where
  /-- A text in a style, to be shown as it stands. -/
  | styled (text style : Text)
  /-- A text with markup. -/
  | markup (text : Text)
deriving DecidableEq, Repr

/-- What the command uses of a console. -/
structure Console where
  /-- What is put out in front of the end of the line, or nothing if the output cannot take it. A
  long line is broken unless it wraps softly. -/
  print : Renderable → (softWrap : Bool) → Option Text
  /-- The text with whatever looks like markup escaped. -/
  escape : Text → Text

namespace Console

/-- Shows the line of a result. -/
def showResult (console : Console) (line style : Text) : Option Text :=
  console.print (.styled line style) true

/-- Shows what is wrong. -/
def showError (console : Console) (message : Text) : Option Text :=
  console.print (.markup ("[bold red]Error:[/bold red] ".toList ++ console.escape message)) true

/-- Shows a remark. -/
def showInfo (console : Console) (message : Text) : Option Text :=
  console.print (.markup ("[dim]".toList ++ console.escape message ++ "[/dim]".toList)) false

/-- Printable ASCII that does not end in a space is put out as it stands, in whatever style. -/
def ShowsAscii (console : Console) : Prop :=
  ∀ text style, Text.isPrintableAscii text = true → text.getLast? ≠ some ' ' →
    console.print (.styled text style) true = some text

end Console

end Command

end DiceRoll
