import QuestionBank.Bank.Files
import QuestionBank.Bank.Records
import QuestionBank.Bank.Sink
import QuestionBank.Cloze.Basic
import QuestionBank.Cloze.Block
import QuestionBank.Cloze.Escape
import QuestionBank.Cloze.Extract
import QuestionBank.Command.Options
import QuestionBank.Command.Path
import QuestionBank.Command.Run
import QuestionBank.Condition.Basic
import QuestionBank.Condition.Parser
import QuestionBank.Condition.Reader
import QuestionBank.Condition.Token
import QuestionBank.Conversion.Answers
import QuestionBank.Conversion.Choices
import QuestionBank.Conversion.Convert
import QuestionBank.Conversion.Embedding
import QuestionBank.Conversion.Header
import QuestionBank.Conversion.Source
import QuestionBank.Document.CodePage
import QuestionBank.Document.Declaration
import QuestionBank.Document.Doctype
import QuestionBank.Document.Encoding
import QuestionBank.Document.Lexical
import QuestionBank.Document.Name
import QuestionBank.Document.Namespace
import QuestionBank.Document.Node
import QuestionBank.Document.Printer
import QuestionBank.Document.Reader
import QuestionBank.Document.Refusal
import QuestionBank.Document.Token
import QuestionBank.Document.Tree
import QuestionBank.Failure
import QuestionBank.Import.Diagnostics
import QuestionBank.Import.Run
import QuestionBank.Json.Basic
import QuestionBank.Json.Printer
import QuestionBank.Json.Reader
import QuestionBank.Json.Shown
import QuestionBank.Main
import QuestionBank.Markup.Clean
import QuestionBank.Markup.Entity
import QuestionBank.Markup.Reference
import QuestionBank.Markup.Tag
import QuestionBank.Markup.Token
import QuestionBank.Number.Binary64
import QuestionBank.Number.Plain
import QuestionBank.Number.Reader
import QuestionBank.Number.Shortest
import QuestionBank.Question.Basic
import QuestionBank.Question.Load
import QuestionBank.Question.Record
import QuestionBank.Question.Validation
import QuestionBank.Schema.Basic
import QuestionBank.Scoring.Aggregate
import QuestionBank.Scoring.Fractions
import QuestionBank.Scoring.Matches
import QuestionBank.Scoring.Numeric
import QuestionBank.Scoring.Outcome
import QuestionBank.Setting.Config
import QuestionBank.Setting.Message
import QuestionBank.Setting.Template
import QuestionBank.Text.Blank
import QuestionBank.Text.Case
import QuestionBank.Text.Digit
import QuestionBank.Text.Fold
import QuestionBank.Text.Letter
import QuestionBank.Text.Lines
import QuestionBank.Text.Lower
import QuestionBank.Text.Printable
import QuestionBank.Text.Quoted
import QuestionBank.Text.Ranges
import QuestionBank.Text.Replace
import QuestionBank.Proofs.Traversal
import QuestionBank.Proofs.Unbroken
import QuestionBank.Proofs.Text.TakeWhile
import QuestionBank.Proofs.Text.Strip
import QuestionBank.Proofs.Text.Lower
import QuestionBank.Proofs.Number.Signs
import QuestionBank.Proofs.Number.Decimal
import QuestionBank.Proofs.Number.Range
import QuestionBank.Proofs.Number.Written
import QuestionBank.Proofs.Number.Order
import QuestionBank.Proofs.Scoring.Sources
import QuestionBank.Proofs.Scoring.Shares
import QuestionBank.Proofs.Scoring.Sorted
import QuestionBank.Proofs.Scoring.Bounds
import QuestionBank.Proofs.Scoring.Marks
import QuestionBank.Proofs.Scoring.Credit
import QuestionBank.Proofs.Scoring.FirstOfEach
import QuestionBank.Proofs.Scoring.Collected
import QuestionBank.Proofs.Scoring.Ranges
import QuestionBank.Proofs.Cloze.Shielded
import QuestionBank.Proofs.Cloze.Block
import QuestionBank.Proofs.Cloze.Option
import QuestionBank.Proofs.Cloze.Encoded
import QuestionBank.Proofs.Cloze.RoundTrip
import QuestionBank.Proofs.Cloze.Piece
import QuestionBank.Proofs.Cloze.Woven
import QuestionBank.Proofs.Conversion.Reading
import QuestionBank.Proofs.Conversion.Embedding
import QuestionBank.Proofs.Conversion.Multianswer
import QuestionBank.Proofs.Conversion.Breach
import QuestionBank.Proofs.Import.Batch
import QuestionBank.Proofs.Import.Accounting
import QuestionBank.Proofs.Condition.Derivation
import QuestionBank.Proofs.Condition.Parsed
import QuestionBank.Proofs.Condition.Printed
import QuestionBank.Proofs.Markup.Scan
import QuestionBank.Proofs.Markup.Name
import QuestionBank.Proofs.Markup.Reference
import QuestionBank.Proofs.Markup.Written
import QuestionBank.Proofs.Markup.Piece
import QuestionBank.Proofs.Markup.Construct
import QuestionBank.Proofs.Markup.Inert
import QuestionBank.Proofs.Markup.Cleaned
import QuestionBank.Proofs.Json.Text
import QuestionBank.Proofs.Json.Numeral
import QuestionBank.Proofs.Json.RoundTrip
import QuestionBank.Proofs.Question.Record
import QuestionBank.Proofs.Schema.Rules
import QuestionBank.Proofs.Question.Valid
import QuestionBank.Proofs.Question.Accepted
import QuestionBank.Proofs.Conversion.Valid
import QuestionBank.Proofs.Conversion.Choices
import QuestionBank.Proofs.Bank.RoundTrip
import QuestionBank.Proofs.Cloze.Scan
import QuestionBank.Proofs.Cloze.Stem
import QuestionBank.Proofs.Import.Topics
import QuestionBank.Proofs.Import.Followed
import QuestionBank.Proofs.Scoring.Acceptance
import QuestionBank.Proofs.Scoring.Aggregated
import QuestionBank.Proofs.Number.Nearest
import QuestionBank.Proofs.Json.Float
import QuestionBank.Proofs.Command.Strict
import QuestionBank.Proofs.Markup.Known
import QuestionBank.Proofs.Markup.Decoded
import QuestionBank.Proofs.Markup.Data
import QuestionBank.Proofs.Markup.Legible
import QuestionBank.Proofs.Number.Shortest
import QuestionBank.Proofs.Import.Stored
import QuestionBank.Proofs.Markup.Steady
import QuestionBank.Proofs.Scoring.Paired
import QuestionBank.Proofs.Conversion.Key
import QuestionBank.Proofs.Conversion.Feedback
import QuestionBank.Proofs.Conversion.Distractors
import QuestionBank.Proofs.Conversion.Pool
import QuestionBank.Proofs.Conversion.Unclaimed
import QuestionBank.Proofs.Cloze.Division
import QuestionBank.Proofs.Condition.Word
import QuestionBank.Proofs.Scoring.Mirrored
import QuestionBank.Proofs.Scoring.Reordered
import QuestionBank.Proofs.Markup.Dropped
import QuestionBank.Proofs.Scoring.Consulted
import QuestionBank.Proofs.Markup.RawContent
import QuestionBank.Proofs.Text.Replaced
import QuestionBank.Proofs.Setting.Substituted
import QuestionBank.Proofs.Markup.Literal
import QuestionBank.Proofs.Conversion.Naming
import QuestionBank.Proofs.Cloze.Split
import QuestionBank.Proofs.Number.Plain
import QuestionBank.Proofs.Condition.Tiling
import QuestionBank.Proofs.Condition.Crowded
import QuestionBank.Proofs.Condition.Bare
import QuestionBank.Proofs.Scoring.Synthesized
