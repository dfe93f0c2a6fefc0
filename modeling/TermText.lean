import TermText.Text
import TermText.Text.Decimal
import TermText.Text.Printable
import TermText.Text.Quoted
import TermText.Number.Binary
import TermText.Number.Shortest
import TermText.Number
import TermText.Value
import TermText.Dialect
import TermText.Token
import TermText.Token.Split
import TermText.Token.Scan
import TermText.Cursor
import TermText.Term
import TermText.Parser.Failure
import TermText.Note
import TermText.Parser.Outcome
import TermText.Parser.Rules
import TermText.Term.Render
import TermText.Term.Nesting
import TermText.Term.Readable
import TermText.Term.Outline
import TermText.Tree
import TermText.Tree.Print
import TermText.Parser
import TermText.CommandLine.Scope
import TermText.CommandLine.Usage
import TermText.CommandLine.Word
import TermText.CommandLine.Request
import TermText.CommandLine.Report
import TermText.Main
import TermText.Parser.Stack
import TermText.Parser.Step
import TermText.Parser.Sequence
import TermText.Parser.Machine
import TermText.Parser.Fuelled
import TermText.Grammar
import TermText.Distinct
import TermText.Proofs.Passage
import TermText.Proofs.Reading
import TermText.Proofs.Brackets
import TermText.Proofs.Simulation
import TermText.Proofs.Recognition
import TermText.Proofs.Scanning
import TermText.Proofs.Notation
import TermText.Proofs.Cutting
import TermText.Proofs.Concatenation
import TermText.Proofs.RoundTrip
import TermText.Proofs.Reporting
import TermText.Proofs.Notes
import TermText.Proofs.Reasons
import TermText.Proofs.Budget
import TermText.Proofs.Room
import TermText.Proofs.Reader
import TermText.Proofs.Raising
import TermText.Proofs.Towers
import TermText.Proofs.Steps
import TermText.Proofs.Matching
import TermText.Proofs.Sequencing
import TermText.Proofs.LogLines
import TermText.Proofs.Words
import TermText.Proofs.Requests
import TermText.Proofs.Help
import TermText.Proofs.Reports
import TermText.Proofs.Normalisation
import TermText.Proofs.Continuation
import TermText.Proofs.Detection
import TermText.Proofs.Renaming
import TermText.Proofs.Outlines
import TermText.Proofs.Depths
import TermText.Proofs.Progress
import TermText.Proofs.Refusals
