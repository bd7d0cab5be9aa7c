import DiceRoll.Text.Basic
import DiceRoll.Text.Blank
import DiceRoll.Text.CaseTable
import DiceRoll.Text.Lower
import DiceRoll.Text.Printable
import DiceRoll.Text.Quoted
import DiceRoll.Text.Numeral
import DiceRoll.Faces
import DiceRoll.DieSet
import DiceRoll.Fault
import DiceRoll.Formula.Basic
import DiceRoll.Formula.Token
import DiceRoll.Formula.Term
import DiceRoll.Formula.Parse
import DiceRoll.Formula.Repetition
import DiceRoll.Roll.Source
import DiceRoll.Roll.Drop
import DiceRoll.Roll.Basic
import DiceRoll.Roll.DieSet
import DiceRoll.Roll.Result
import DiceRoll.Roll.Formula
import DiceRoll.Report.Line
import DiceRoll.Report.Log
import DiceRoll.Settings.Basic
import DiceRoll.Settings.Evaluator
import DiceRoll.Settings.Memory
import DiceRoll.Command.Console
import DiceRoll.Command.Reader
import DiceRoll.Command.Batch
import DiceRoll.Command.Platform
import DiceRoll.Main.WholeNumber
import DiceRoll.Main.Dotenv
import DiceRoll.Main.Reference
import DiceRoll.Main.Settings
import DiceRoll.Main.Arguments
import DiceRoll.Main.EmojiTable
import DiceRoll.Main.Shortcode
import DiceRoll.Main.Markup
import DiceRoll.Main.Generator
import DiceRoll.Settings.Accessor
import DiceRoll.Command.Run
import DiceRoll.Main
import DiceRoll.Proofs.Sequence
import DiceRoll.Proofs.Text.Lower
import DiceRoll.Proofs.Text.Numeral
import DiceRoll.Proofs.Text.Glyph
import DiceRoll.Proofs.Text.Padding
import DiceRoll.Proofs.Text.Separated
import DiceRoll.Proofs.Formula.Token
import DiceRoll.Proofs.Formula.Cut
import DiceRoll.Proofs.Formula.Expressible
import DiceRoll.Proofs.Formula.Suffix
import DiceRoll.Proofs.Formula.Readable
import DiceRoll.Proofs.Formula.Spelling
import DiceRoll.Proofs.Formula.Written
import DiceRoll.Proofs.Formula.TermSign
import DiceRoll.Proofs.Formula.Append
import DiceRoll.Proofs.Formula.Spaced
import DiceRoll.Proofs.Formula.Passes
import DiceRoll.Proofs.Roll.Reading
import DiceRoll.Proofs.Roll.Loops
import DiceRoll.Proofs.Roll.DieSet
import DiceRoll.Proofs.Roll.Guard
import DiceRoll.Proofs.Roll.Meets
import DiceRoll.Proofs.Roll.Drop
import DiceRoll.Proofs.Roll.Ranking
import DiceRoll.Proofs.Report.Line
import DiceRoll.Proofs.Report.Breakdown
import DiceRoll.Proofs.Report.Details
import DiceRoll.Proofs.Roll.Formula
import DiceRoll.Proofs.Roll.Tally
import DiceRoll.Proofs.Roll.Joined
import DiceRoll.Proofs.Roll.Alike
import DiceRoll.Proofs.Roll.Independence
import DiceRoll.Proofs.Roll.Shortest
import DiceRoll.Proofs.Roll.Signs
import DiceRoll.Proofs.Roll.Success
import DiceRoll.Proofs.Roll.Range
import DiceRoll.Proofs.Roll.Crit
import DiceRoll.Proofs.Roll.Minimum
import DiceRoll.Proofs.Report.Total
import DiceRoll.Proofs.Report.Unambiguous
import DiceRoll.Proofs.Report.Characters
import DiceRoll.Proofs.Roll.Writable
import DiceRoll.Proofs.Roll.Repeated
import DiceRoll.Proofs.Roll.Unreadable
import DiceRoll.Proofs.Main.Arguments
import DiceRoll.Proofs.Main.Settings
import DiceRoll.Proofs.Command.Batch
import DiceRoll.Proofs.Command.Faithful
import DiceRoll.Proofs.Command.Deleted
import DiceRoll.Proofs.Command.Arguments
import DiceRoll.Proofs.Report.TooLong
import DiceRoll.Proofs.Roll.Opposite
import DiceRoll.Proofs.Roll.Refusal
import DiceRoll.Proofs.Settings.Overridden
import DiceRoll.Proofs.Settings.Accessor
