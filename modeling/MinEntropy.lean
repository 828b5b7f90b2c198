import MinEntropy.Assessment.Aggregate
import MinEntropy.Assessment.Coordinator
import MinEntropy.Assessment.Document
import MinEntropy.Assessment.Error
import MinEntropy.Assessment.Request
import MinEntropy.Assessment.Result
import MinEntropy.Assessment.Session
import MinEntropy.Assessment.Track
import MinEntropy.Command.Arguments
import MinEntropy.Command.Assess
import MinEntropy.Command.Directory
import MinEntropy.Command.Run
import MinEntropy.Command.Serve
import MinEntropy.Command.World
import MinEntropy.Decimal.Shortest
import MinEntropy.Decimal.Style
import MinEntropy.Estimator.Catalogue
import MinEntropy.Estimator.Document
import MinEntropy.Estimator.Library
import MinEntropy.Estimator.Mock
import MinEntropy.Estimator.Mode
import MinEntropy.Estimator.Specimen
import MinEntropy.Estimator.Suite
import MinEntropy.Figure
import MinEntropy.Json.Decode
import MinEntropy.Json.Reader
import MinEntropy.Json.Skip
import MinEntropy.Json.Value
import MinEntropy.Log.Basic
import MinEntropy.Log.Directive
import MinEntropy.Log.Filter
import MinEntropy.Main
import MinEntropy.Metrics.Exposition
import MinEntropy.Metrics.Histogram
import MinEntropy.Metrics.Registry
import MinEntropy.Net.Address
import MinEntropy.Pattern.Basic
import MinEntropy.Pattern.Brackets
import MinEntropy.Pattern.CharSet
import MinEntropy.Pattern.Escape
import MinEntropy.Pattern.Flags
import MinEntropy.Pattern.Nested
import MinEntropy.Pattern.Reader
import MinEntropy.Report.Basic
import MinEntropy.Report.Digest
import MinEntropy.Report.Text
import MinEntropy.Report.Timestamp
import MinEntropy.Samples.Document
import MinEntropy.Samples.Prepared
import MinEntropy.Samples.WordSize
import MinEntropy.Service.Basic
import MinEntropy.Service.Exchange
import MinEntropy.Service.Journal
import MinEntropy.Service.Query
import MinEntropy.Settings.Basic
import MinEntropy.Settings.Environment
import MinEntropy.Settings.File
import MinEntropy.Text.Alphanumeric
import MinEntropy.Text.Blank
import MinEntropy.Text.CodePoint
import MinEntropy.Text.Integer
import MinEntropy.Text.Quoted
import MinEntropy.Text.Unprintable
import MinEntropy.Text.Utf8
import MinEntropy.Toml.Document
import MinEntropy.Toml.Scalar
import MinEntropy.Toml.Table
import MinEntropy.Proofs.Samples.Letters
import MinEntropy.Proofs.Samples.Compaction
import MinEntropy.Proofs.Samples.Preparation
import MinEntropy.Proofs.Samples.Bitstring
import MinEntropy.Proofs.Samples.Widths
import MinEntropy.Proofs.Figure.Order
import MinEntropy.Proofs.Figure.Least
import MinEntropy.Proofs.Figure.Product
import MinEntropy.Proofs.Assessment.Transcript
import MinEntropy.Proofs.Assessment.Aggregate
import MinEntropy.Proofs.Assessment.Run
import MinEntropy.Proofs.Assessment.Calls
import MinEntropy.Proofs.Assessment.Figures
import MinEntropy.Proofs.Assessment.Validation
import MinEntropy.Proofs.Assessment.Sequence
import MinEntropy.Proofs.Assessment.Session
import MinEntropy.Proofs.Estimator.Coverage
import MinEntropy.Proofs.Estimator.Guard
import MinEntropy.Proofs.Metrics.Tally
import MinEntropy.Proofs.Metrics.Entries
import MinEntropy.Proofs.Metrics.Lines
import MinEntropy.Proofs.Metrics.Reconciliation
import MinEntropy.Proofs.Metrics.Untimed
import MinEntropy.Proofs.Metrics.Observations
import MinEntropy.Proofs.Metrics.Encoding
import MinEntropy.Proofs.Service.Documents
import MinEntropy.Proofs.Service.Stages
import MinEntropy.Proofs.Service.Watch
import MinEntropy.Proofs.Service.Settlement
import MinEntropy.Proofs.Service.Parameters
import MinEntropy.Proofs.Service.Essence
import MinEntropy.Proofs.Service.Hanging
import MinEntropy.Proofs.Service.Deadline
import MinEntropy.Proofs.Service.Steps
import MinEntropy.Proofs.Service.Ledger
import MinEntropy.Proofs.Service.Naming
import MinEntropy.Proofs.Service.Breakdown
import MinEntropy.Proofs.Assessment.Memory
import MinEntropy.Proofs.Settings.Layers
import MinEntropy.Proofs.Settings.Loading
import MinEntropy.Proofs.Settings.Flaws
import MinEntropy.Proofs.Figure.Rounding
import MinEntropy.Proofs.Figure.Scaling
import MinEntropy.Proofs.Assessment.Batches
import MinEntropy.Proofs.Assessment.Combination
import MinEntropy.Proofs.Report.Consistency
import MinEntropy.Proofs.Report.Answers
import MinEntropy.Proofs.Report.Document
import MinEntropy.Proofs.Assessment.Failure
import MinEntropy.Proofs.Command.Failure
import MinEntropy.Proofs.Command.Outcome
import MinEntropy.Proofs.Assessment.Normalisation
import MinEntropy.Proofs.Text.Utf8
import MinEntropy.Proofs.Text.Integer
import MinEntropy.Proofs.Estimator.Library
import MinEntropy.Proofs.Decimal.Shortest
import MinEntropy.Proofs.Decimal.Doubles
import MinEntropy.Proofs.Figure.Naturals
import MinEntropy.Proofs.Json.Numeral
import MinEntropy.Proofs.Json.Figures
import MinEntropy.Proofs.Json.Strings
import MinEntropy.Proofs.Json.Passing
import MinEntropy.Proofs.Json.Likeness
import MinEntropy.Proofs.Json.Layout
import MinEntropy.Proofs.Json.Numbers
import MinEntropy.Proofs.Json.Recovery
import MinEntropy.Proofs.Json.Whole
import MinEntropy.Proofs.Samples.Document
import MinEntropy.Proofs.Assessment.Document
import MinEntropy.Proofs.Estimator.Spellings
