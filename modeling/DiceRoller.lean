import DiceRoller.Text.Split
import DiceRoller.Text.Mark
import DiceRoller.Text.Blank
import DiceRoller.Text.Lines
import DiceRoller.Text.Decimal
import DiceRoller.Text.WholeNumber
import DiceRoller.Text.Printable
import DiceRoller.Text.UpperCase
import DiceRoller.Text.Quoted
import DiceRoller.Number
import DiceRoller.Fault
import DiceRoller.Term
import DiceRoller.Term.Expression
import DiceRoller.Term.Reading
import DiceRoller.Request
import DiceRoller.Dice
import DiceRoller.Selection
import DiceRoller.Score
import DiceRoller.Draw
import DiceRoller.Draw.Twister
import DiceRoller.Draw.Source
import DiceRoller.Rolling
import DiceRoller.Table
import DiceRoller.Stamp
import DiceRoller.Report
import DiceRoller.Journal
import DiceRoller.Settings
import DiceRoller.Service
import DiceRoller.Service.Session
import DiceRoller.Proofs.Number
import DiceRoller.Proofs.Number.LengthGuard
import DiceRoller.Proofs.Grammar.Reading
import DiceRoller.Proofs.Grammar.Refusal
import DiceRoller.Proofs.Grammar.Sentence
import DiceRoller.Proofs.Grammar.Joining
import DiceRoller.Proofs.RoundTrip
import DiceRoller.Proofs.Drawing
import DiceRoller.Proofs.Selection
import DiceRoller.Proofs.Report
import DiceRoller.Proofs.Session
import DiceRoller.Proofs.Message
import DiceRoller.Proofs.EmptyGroup
import DiceRoller.Proofs.Range
import DiceRoller.Proofs.BetterDice
import DiceRoller.Proofs.Selection.Values
import DiceRoller.Proofs.Table.Widths
import DiceRoller.Proofs.Table.Columns
import DiceRoller.Proofs.Table.Roll
import DiceRoller.Proofs.Explanation
import DiceRoller.Proofs.Quoting
import DiceRoller.Proofs.Spelling
import DiceRoller.Proofs.OneLine
import DiceRoller.Proofs.Records
