import LineCalculator.CommandLine.Arguments
import LineCalculator.CommandLine.FileSystem
import LineCalculator.CommandLine.Run
import LineCalculator.Descent.Action
import LineCalculator.Descent.Cursor
import LineCalculator.Descent.Rule
import LineCalculator.Evaluation
import LineCalculator.Expr
import LineCalculator.Grammar.Automaton
import LineCalculator.Grammar.Token
import LineCalculator.Grammar.Tree
import LineCalculator.Main
import LineCalculator.ParseError
import LineCalculator.Proofs.Agreement
import LineCalculator.Proofs.Calculation
import LineCalculator.Proofs.CommandLine.Files
import LineCalculator.Proofs.CommandLine.Opening
import LineCalculator.Proofs.CommandLine.Run
import LineCalculator.Proofs.Descent.Announcement
import LineCalculator.Proofs.Descent.Balance
import LineCalculator.Proofs.Descent.Completeness
import LineCalculator.Proofs.Descent.Depth
import LineCalculator.Proofs.Descent.Entries
import LineCalculator.Proofs.Descent.Motion
import LineCalculator.Proofs.Descent.Outline
import LineCalculator.Proofs.Descent.Oversized
import LineCalculator.Proofs.Descent.Position
import LineCalculator.Proofs.Descent.Prefix
import LineCalculator.Proofs.Descent.Runs
import LineCalculator.Proofs.Descent.Soundness
import LineCalculator.Proofs.Descent.Stage
import LineCalculator.Proofs.Descent.Tracing
import LineCalculator.Proofs.Descent.Verdict
import LineCalculator.Proofs.Display
import LineCalculator.Proofs.Evaluation.Balance
import LineCalculator.Proofs.Evaluation.Budget
import LineCalculator.Proofs.Evaluation.Exact
import LineCalculator.Proofs.Evaluation.Log
import LineCalculator.Proofs.Evaluation.Machine
import LineCalculator.Proofs.Evaluation.Order
import LineCalculator.Proofs.Evaluation.Range
import LineCalculator.Proofs.Evaluation.Replacement
import LineCalculator.Proofs.Evaluation.Structural
import LineCalculator.Proofs.Failures
import LineCalculator.Proofs.Grammar.Completeness
import LineCalculator.Proofs.Grammar.Division
import LineCalculator.Proofs.Grammar.Language
import LineCalculator.Proofs.Grammar.Literals
import LineCalculator.Proofs.Grammar.Reading
import LineCalculator.Proofs.Grammar.Refusal
import LineCalculator.Proofs.Grammar.Scan
import LineCalculator.Proofs.Grammar.Shift
import LineCalculator.Proofs.Grammar.Soundness
import LineCalculator.Proofs.Lines
import LineCalculator.Proofs.NestingLimits
import LineCalculator.Proofs.Reading
import LineCalculator.Proofs.Replies
import LineCalculator.Proofs.SameTokens
import LineCalculator.Proofs.Signs
import LineCalculator.Proofs.Stream
import LineCalculator.Proofs.Substitution
import LineCalculator.Proofs.Syntax.Forward
import LineCalculator.Proofs.Syntax.Group
import LineCalculator.Proofs.Syntax.Interpretation
import LineCalculator.Proofs.Syntax.Nesting
import LineCalculator.Proofs.Syntax.Pairing
import LineCalculator.Proofs.Syntax.Phrase
import LineCalculator.Proofs.Syntax.Place
import LineCalculator.Proofs.Syntax.Printed
import LineCalculator.Proofs.Syntax.Spelling
import LineCalculator.Proofs.Syntax.Traversal
import LineCalculator.Proofs.Tracer
import LineCalculator.Proofs.Tracing
import LineCalculator.Proofs.Word
import LineCalculator.Proofs.Word.Arithmetic
import LineCalculator.Reply
import LineCalculator.Session
import LineCalculator.Text.Blank
import LineCalculator.Text.Decimal
import LineCalculator.Text.DecimalDigit
import LineCalculator.Text.Lines
import LineCalculator.Text.Printable
import LineCalculator.Text.Quoted
import LineCalculator.Text.Ranges
import LineCalculator.Text.Utf8
import LineCalculator.Tracer
import LineCalculator.Transcript
import LineCalculator.Word
