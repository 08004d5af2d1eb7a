import ChecklistReview.Artifact
import ChecklistReview.Checklist
import ChecklistReview.Command.Fault
import ChecklistReview.Command.Request
import ChecklistReview.Command.Run
import ChecklistReview.Command.Words
import ChecklistReview.Decimal.Shortest
import ChecklistReview.FileTree
import ChecklistReview.Finding
import ChecklistReview.Finding.Data
import ChecklistReview.Fix
import ChecklistReview.Grammar.Automaton
import ChecklistReview.Grammar.Form
import ChecklistReview.Grammar.Language
import ChecklistReview.Grammar.Lexeme
import ChecklistReview.Grammar.Parse
import ChecklistReview.Grammar.Production
import ChecklistReview.Grammar.Stack
import ChecklistReview.Grammar.Subtree
import ChecklistReview.Guard
import ChecklistReview.Json.Inline
import ChecklistReview.Json.Reader
import ChecklistReview.Json.Value
import ChecklistReview.Json.Writer
import ChecklistReview.Layout.Frame
import ChecklistReview.Layout.Markup
import ChecklistReview.Layout.Panel
import ChecklistReview.Layout.Table
import ChecklistReview.Layout.Wrap
import ChecklistReview.LengthCheck
import ChecklistReview.Log
import ChecklistReview.Main
import ChecklistReview.NullCheck
import ChecklistReview.Path
import ChecklistReview.PatternCheck
import ChecklistReview.Proofs.Artifact
import ChecklistReview.Proofs.Checklist
import ChecklistReview.Proofs.Checklist.Selection
import ChecklistReview.Proofs.Command.Fix
import ChecklistReview.Proofs.FileTree
import ChecklistReview.Proofs.FileTree.Relisting
import ChecklistReview.Proofs.Fix.Contract
import ChecklistReview.Proofs.Fix.LineStructure
import ChecklistReview.Proofs.Fix.Order
import ChecklistReview.Proofs.Fix.Template
import ChecklistReview.Proofs.Guard.Expression
import ChecklistReview.Proofs.Guard.Grammar
import ChecklistReview.Proofs.Json.Limits
import ChecklistReview.Proofs.Json.RoundTrip
import ChecklistReview.Proofs.Layout.Table
import ChecklistReview.Proofs.Layout.Wrap
import ChecklistReview.Proofs.NullCheck.Depth
import ChecklistReview.Proofs.NullCheck.Locality
import ChecklistReview.Proofs.NullCheck.Unguarded
import ChecklistReview.Proofs.Path
import ChecklistReview.Proofs.Path.Order
import ChecklistReview.Proofs.Regex.FindAll
import ChecklistReview.Proofs.Regex.Fuel
import ChecklistReview.Proofs.Regex.Limits
import ChecklistReview.Proofs.Regex.Meaning
import ChecklistReview.Proofs.Regex.Overrun
import ChecklistReview.Proofs.Regex.Reading
import ChecklistReview.Proofs.Regex.Span
import ChecklistReview.Proofs.Report.Accounting
import ChecklistReview.Proofs.Report.Fixes
import ChecklistReview.Proofs.Report.Sections
import ChecklistReview.Proofs.Report.Shown
import ChecklistReview.Proofs.Review.Containment
import ChecklistReview.Proofs.Review.Evaluation
import ChecklistReview.Proofs.Review.Failure
import ChecklistReview.Proofs.Review.Lengths
import ChecklistReview.Proofs.Review.LineOrder
import ChecklistReview.Proofs.Review.Location
import ChecklistReview.Proofs.Review.Origin
import ChecklistReview.Proofs.Review.ParameterFindings
import ChecklistReview.Proofs.Review.PatternFindings
import ChecklistReview.Proofs.Review.Resolution
import ChecklistReview.Proofs.Source.FirstFault
import ChecklistReview.Proofs.Text.DecodedLines
import ChecklistReview.Proofs.Text.LineIndex
import ChecklistReview.Proofs.Text.LineSpan
import ChecklistReview.Proofs.Text.Lines
import ChecklistReview.Proofs.Text.Occurrence
import ChecklistReview.Proofs.Text.Runs
import ChecklistReview.Proofs.Text.UndecodableBytes
import ChecklistReview.Proofs.Text.Utf8
import ChecklistReview.Proofs.Timestamp
import ChecklistReview.Proofs.Traversal
import ChecklistReview.Proofs.Tree
import ChecklistReview.Proofs.Tree.Position
import ChecklistReview.Proofs.Validation
import ChecklistReview.Regex.CharTest
import ChecklistReview.Regex.Fault
import ChecklistReview.Regex.Match
import ChecklistReview.Regex.Parser
import ChecklistReview.Regex.Step
import ChecklistReview.Regex.Syntax
import ChecklistReview.Report.Display
import ChecklistReview.Report.Summary
import ChecklistReview.Review
import ChecklistReview.Rule
import ChecklistReview.Runtime
import ChecklistReview.Session
import ChecklistReview.Source.Document
import ChecklistReview.Source.Language
import ChecklistReview.Source.Reading
import ChecklistReview.Source.Syntax
import ChecklistReview.StructureCheck
import ChecklistReview.Text.Blank
import ChecklistReview.Text.Case
import ChecklistReview.Text.CharName
import ChecklistReview.Text.CharSet
import ChecklistReview.Text.Identifier
import ChecklistReview.Text.Line
import ChecklistReview.Text.Numeral
import ChecklistReview.Text.Occurrence
import ChecklistReview.Text.Printable
import ChecklistReview.Text.Quoted
import ChecklistReview.Text.Similarity
import ChecklistReview.Text.Utf8
import ChecklistReview.Text.Width
import ChecklistReview.Text.Word
import ChecklistReview.Text.Wording
import ChecklistReview.Timestamp
import ChecklistReview.Traversal
import ChecklistReview.Tree
import ChecklistReview.TypeScript.Language
import ChecklistReview.TypeScript.Rules
import ChecklistReview.TypeScript.Token
import ChecklistReview.Validation.Field
import ChecklistReview.Validation.Issue
