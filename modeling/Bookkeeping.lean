import Bookkeeping.Amount.Basic
import Bookkeeping.Amount.Reader
import Bookkeeping.Attempt
import Bookkeeping.Balance.Basic
import Bookkeeping.Balance.Pair
import Bookkeeping.Calendar.Date
import Bookkeeping.Calendar.Pattern
import Bookkeeping.Commodity
import Bookkeeping.Decimal.Arithmetic
import Bookkeeping.Decimal.Basic
import Bookkeeping.Decimal.Text
import Bookkeeping.Elision
import Bookkeeping.Expr.Basic
import Bookkeeping.Expr.Eval
import Bookkeeping.Expr.Formula
import Bookkeeping.Expr.Lexer
import Bookkeeping.Expr.Parser
import Bookkeeping.Expr.Predicate
import Bookkeeping.Expr.Token
import Bookkeeping.Index
import Bookkeeping.Journal.Basic
import Bookkeeping.Journal.Record
import Bookkeeping.Journal.Tree
import Bookkeeping.Mask.Basic
import Bookkeeping.Mask.Bracket
import Bookkeeping.Mask.Encoding
import Bookkeeping.Mask.Escape
import Bookkeeping.Mask.Property
import Bookkeeping.Mask.Reader
import Bookkeeping.Mask.Switches
import Bookkeeping.Mask.Walk
import Bookkeeping.Mask.Weight
import Bookkeeping.Report.Balances
import Bookkeeping.Report.Blocks
import Bookkeeping.Report.Name
import Bookkeeping.Report.Opening
import Bookkeeping.Report.Pass
import Bookkeeping.Report.Print
import Bookkeeping.Report.Register
import Bookkeeping.Report.Renderer
import Bookkeeping.Report.Scope
import Bookkeeping.Report.Selector
import Bookkeeping.Report.Sink
import Bookkeeping.Report.State
import Bookkeeping.Report.Sums
import Bookkeeping.Settings
import Bookkeeping.Template.Basic
import Bookkeeping.Template.Reader
import Bookkeeping.Text.Age
import Bookkeeping.Text.Blank
import Bookkeeping.Text.Break
import Bookkeeping.Text.CaseFold
import Bookkeeping.Text.Category
import Bookkeeping.Text.CharSet
import Bookkeeping.Text.CharTable
import Bookkeeping.Text.Letter
import Bookkeeping.Text.Numeral
import Bookkeeping.Text.Pad
import Bookkeeping.Text.Path
import Bookkeeping.Text.Property
import Bookkeeping.Text.Quoted
import Bookkeeping.Text.Runs
import Bookkeeping.Text.Script
import Bookkeeping.Text.Word
import Bookkeeping.Value.Arithmetic
import Bookkeeping.Value.Basic
import Bookkeeping.Value.Order
import Bookkeeping.Whole
import Bookkeeping.Proofs.Expr.Grammar
import Bookkeeping.Proofs.Expr.Words
import Bookkeeping.Proofs.Expr.Scanning
import Bookkeeping.Proofs.Expr.Parsing
import Bookkeeping.Proofs.Expr.Writing
import Bookkeeping.Proofs.Expr.Folding
import Bookkeeping.Proofs.Journal.Tree
import Bookkeeping.Proofs.Decimal.Rational
import Bookkeeping.Proofs.Value.Same
import Bookkeeping.Proofs.Report.Marks
import Bookkeeping.Proofs.Report.Selection
import Bookkeeping.Proofs.Report.Balances
import Bookkeeping.Proofs.Amount.Sum
import Bookkeeping.Proofs.Balance.Sum
import Bookkeeping.Proofs.Value.Sum
import Bookkeeping.Proofs.Value.Bracketing
import Bookkeeping.Proofs.Template.Writing
import Bookkeeping.Proofs.Journal.Paths
import Bookkeeping.Proofs.Journal.Filing
import Bookkeeping.Proofs.Journal.Lookup
import Bookkeeping.Proofs.Report.Display
import Bookkeeping.Proofs.Decimal.Grid
import Bookkeeping.Proofs.Amount.Denominated
import Bookkeeping.Proofs.Value.Total
import Bookkeeping.Proofs.Journal.Postings
import Bookkeeping.Proofs.Report.Rollup
import Bookkeeping.Proofs.Report.Totals
import Bookkeeping.Proofs.Decimal.Vanishing
import Bookkeeping.Proofs.Balance.Representation
import Bookkeeping.Proofs.Value.Holding
import Bookkeeping.Proofs.Report.Opening
import Bookkeeping.Proofs.Report.Outline
import Bookkeeping.Proofs.Report.Refusal
import Bookkeeping.Proofs.Report.Rendering
import Bookkeeping.Proofs.Report.Repetition
import Bookkeeping.Proofs.Decimal.Reading
import Bookkeeping.Proofs.Amount.Reading
import Bookkeeping.Proofs.Template.Splitting
import Bookkeeping.Proofs.Template.Embedding
import Bookkeeping.Proofs.Report.Blocks
import Bookkeeping.Proofs.Report.Revisits
import Bookkeeping.Proofs.Decimal.Overflow
import Bookkeeping.Proofs.Report.Fields
import Bookkeeping.Proofs.Balance.Negation
import Bookkeeping.Proofs.Balance.Lots
import Bookkeeping.Proofs.Report.Walk
import Bookkeeping.Proofs.Elision.Abbreviation
import Bookkeeping.Proofs.Elision.Bounds
import Bookkeeping.Proofs.Report.Groups
import Bookkeeping.Proofs.Journal.Lineage
import Bookkeeping.Proofs.Report.Names
import Bookkeeping.Proofs.Report.Widths
import Bookkeeping.Proofs.Template.Verbatim
import Bookkeeping.Proofs.Report.Printing
import Bookkeeping.Proofs.Value.Labels
import Bookkeeping.Proofs.Decimal.Order
import Bookkeeping.Proofs.Value.Order
import Bookkeeping.Proofs.Balance.Programs
import Bookkeeping.Proofs.Amount.Order
import Bookkeeping.Proofs.Balance.Failure
import Bookkeeping.Proofs.Expr.Integers
import Bookkeeping.Proofs.Decimal.Rounding
import Bookkeeping.Proofs.Balance.Reversal
import Bookkeeping.Proofs.Decimal.Numeral
import Bookkeeping.Proofs.Amount.Shown
