import RomanCalc.Main
import RomanCalc.Proofs.Text.Blank
import RomanCalc.Proofs.Text.Collapse
import RomanCalc.Proofs.Text.Decomposition
import RomanCalc.Proofs.Text.Case
import RomanCalc.Proofs.Text.Ending
import RomanCalc.Proofs.Text.Ascii
import RomanCalc.Proofs.Number.Double
import RomanCalc.Proofs.Number.Value
import RomanCalc.Proofs.Number.Significand
import RomanCalc.Proofs.Number.Rounding
import RomanCalc.Proofs.Number.Nearest
import RomanCalc.Proofs.Number.Whole
import RomanCalc.Proofs.Number.Overflow
import RomanCalc.Proofs.Number.Infinite
import RomanCalc.Proofs.Number.Halves
import RomanCalc.Proofs.Number.Literal
import RomanCalc.Proofs.Number.Style
import RomanCalc.Proofs.Numeral.Letters
import RomanCalc.Proofs.Numeral.Capitals
import RomanCalc.Proofs.Numeral.Standard
import RomanCalc.Proofs.Numeral.Ranks
import RomanCalc.Proofs.Numeral.Places
import RomanCalc.Proofs.Numeral.Weights
import RomanCalc.Proofs.Numeral.Respelling
import RomanCalc.Proofs.Numeral.Readings
import RomanCalc.Proofs.Numeral.Extension
import RomanCalc.Proofs.Numeral.Dotted
import RomanCalc.Proofs.Uncia.Twelfths
import RomanCalc.Proofs.Uncia.Written
import RomanCalc.Proofs.Uncia.Glyphs
import RomanCalc.Proofs.Numeral.Display
import RomanCalc.Proofs.Uncia.Reading
import RomanCalc.Proofs.Uncia.Names
import RomanCalc.Proofs.Uncia.Kept
import RomanCalc.Proofs.Uncia.Signs
import RomanCalc.Proofs.Uncia.Plain
import RomanCalc.Proofs.Keypad.Interpretation
import RomanCalc.Proofs.Keypad.Runs
import RomanCalc.Proofs.Keypad.Pieces
import RomanCalc.Proofs.Keypad.Typing
import RomanCalc.Proofs.Keypad.Ending
import RomanCalc.Proofs.Keypad.Replay
import RomanCalc.Proofs.Keypad.Appending
import RomanCalc.Proofs.Expression.Structure
import RomanCalc.Proofs.Expression.Formula
import RomanCalc.Proofs.Expression.Mixed
import RomanCalc.Proofs.Expression.Split
import RomanCalc.Proofs.Expression.Accepted
import RomanCalc.Proofs.Expression.Faults
import RomanCalc.Proofs.Expression.Pieces
import RomanCalc.Proofs.Expression.Rows
import RomanCalc.Proofs.Expression.Grammar
import RomanCalc.Proofs.Expression.Precedence
import RomanCalc.Proofs.Expression.SingleOperation
import RomanCalc.Proofs.Expression.Operands
import RomanCalc.Proofs.Evaluation
import RomanCalc.Proofs.Expression.Attempt
import RomanCalc.Proofs.Expression.Joined
import RomanCalc.Proofs.Ledger
import RomanCalc.Proofs.Ledger.Requests
import RomanCalc.Proofs.CommandLine.Line
import RomanCalc.Proofs.CommandLine.Printing
import RomanCalc.Proofs.CommandLine.Fallback
import RomanCalc.Proofs.CommandLine.History
