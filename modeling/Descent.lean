import Descent.Bounds
import Descent.Bytes
import Descent.Calculator.Basic
import Descent.Calculator.Program
import Descent.CharSet
import Descent.Decimal.Double
import Descent.Decimal.Plain
import Descent.Decimal.Shortest
import Descent.Expected
import Descent.Fault
import Descent.Grammar.Basic
import Descent.Grammar.Draft
import Descent.Grammar.Lazy
import Descent.Grammar.Primitive
import Descent.Grammar.Session
import Descent.Grammar.Unfold
import Descent.Hex
import Descent.Input
import Descent.Main
import Descent.Names
import Descent.Parser.Basic
import Descent.Parser.Binary
import Descent.Parser.Complete
import Descent.Parser.Node
import Descent.Parser.Repeat
import Descent.Parser.Sequence
import Descent.Parser.Text
import Descent.Pattern.Bracket
import Descent.Pattern.Engine
import Descent.Pattern.Expr
import Descent.Pattern.Lexeme
import Descent.Pattern.Machine
import Descent.Pattern.NamedSet
import Descent.Pattern.Program
import Descent.Pattern.Reader
import Descent.Pattern.Search
import Descent.Position
import Descent.Proofs.Bounds.Range
import Descent.Proofs.Bytes.BigEndian
import Descent.Proofs.Bytes.Integers
import Descent.Proofs.Bytes.Onward
import Descent.Proofs.Calculator.Evaluate
import Descent.Proofs.Calculator.Exact
import Descent.Proofs.Calculator.Feedback
import Descent.Proofs.Calculator.Halt
import Descent.Proofs.Calculator.Language
import Descent.Proofs.Calculator.Patterns
import Descent.Proofs.Calculator.Reading
import Descent.Proofs.Calculator.Scanner
import Descent.Proofs.Calculator.Syntax
import Descent.Proofs.Calculator.Tokens
import Descent.Proofs.Decimal.Double
import Descent.Proofs.Decimal.Nearest
import Descent.Proofs.Decimal.Plain
import Descent.Proofs.Decimal.Rounding
import Descent.Proofs.Decimal.Shortest
import Descent.Proofs.Expected.Bracketing
import Descent.Proofs.Expected.Merge
import Descent.Proofs.Grammar.Behind
import Descent.Proofs.Grammar.Budget
import Descent.Proofs.Grammar.Confined
import Descent.Proofs.Grammar.Encoded
import Descent.Proofs.Grammar.Furthest
import Descent.Proofs.Grammar.Gather
import Descent.Proofs.Grammar.Guarded
import Descent.Proofs.Grammar.Kept
import Descent.Proofs.Grammar.Labels
import Descent.Proofs.Grammar.Lines
import Descent.Proofs.Grammar.Outside
import Descent.Proofs.Grammar.Reports
import Descent.Proofs.Grammar.Spans
import Descent.Proofs.Grammar.Terminates
import Descent.Proofs.Grammar.Translate
import Descent.Proofs.Grammar.Unordered
import Descent.Proofs.Parser.Choice
import Descent.Proofs.Parser.Comparison
import Descent.Proofs.Parser.Complete
import Descent.Proofs.Parser.Confined
import Descent.Proofs.Parser.Laws
import Descent.Proofs.Parser.Noted
import Descent.Proofs.Parser.Places
import Descent.Proofs.Parser.Primitive
import Descent.Proofs.Parser.Recognition
import Descent.Proofs.Parser.Repetition
import Descent.Proofs.Parser.Run
import Descent.Proofs.Parser.Separated
import Descent.Proofs.Parser.Sequence
import Descent.Proofs.Parser.Settled
import Descent.Proofs.Parser.Split
import Descent.Proofs.Parser.Stays
import Descent.Proofs.Parser.Unbounded
import Descent.Proofs.Parser.Uniform
import Descent.Proofs.Pattern.Flags
import Descent.Proofs.Pattern.Machine
import Descent.Proofs.Session.Memory
import Descent.Proofs.Session.Unfold
import Descent.Proofs.Text.Advance
import Descent.Proofs.Text.Behind
import Descent.Proofs.Text.Cursor
import Descent.Proofs.Text.Encoded
import Descent.Proofs.Text.Genuine
import Descent.Proofs.Text.Onward
import Descent.Proofs.Text.Order
import Descent.Proofs.Text.Seek
import Descent.Proofs.Value.Offsets
import Descent.Proofs.Value.Spans
import Descent.Result
import Descent.Text
import Descent.Unicode.Age
import Descent.Unicode.Blank
import Descent.Unicode.Break
import Descent.Unicode.CaseFold
import Descent.Unicode.Category
import Descent.Unicode.Latest
import Descent.Unicode.Letter
import Descent.Unicode.Property
import Descent.Unicode.Script
import Descent.Unicode.Table
import Descent.Value
import Descent.Value.Transform
import Descent.Word
