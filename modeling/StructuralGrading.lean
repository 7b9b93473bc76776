import StructuralGrading.Batch.Basic
import StructuralGrading.Batch.Outcome
import StructuralGrading.CommandLine.Arguments
import StructuralGrading.CommandLine.Colour
import StructuralGrading.CommandLine.Command
import StructuralGrading.CommandLine.Environment
import StructuralGrading.CommandLine.Help
import StructuralGrading.CommandLine.Request
import StructuralGrading.CommandLine.Session
import StructuralGrading.CommandLine.Styled
import StructuralGrading.CommandLine.Suggestion
import StructuralGrading.Comparison
import StructuralGrading.Concept.Basic
import StructuralGrading.Concept.Graph
import StructuralGrading.Configuration
import StructuralGrading.Decimal.Binary
import StructuralGrading.Decimal.Fixed
import StructuralGrading.Decimal.Reader
import StructuralGrading.Decimal.Shortest
import StructuralGrading.Explanation
import StructuralGrading.Feedback
import StructuralGrading.Flow.Graph
import StructuralGrading.Flow.Trace
import StructuralGrading.Grading.Basic
import StructuralGrading.Grading.Fault
import StructuralGrading.Grading.Files
import StructuralGrading.Json
import StructuralGrading.Log
import StructuralGrading.Main
import StructuralGrading.Order.Sorted
import StructuralGrading.Program.Basic
import StructuralGrading.Program.Check
import StructuralGrading.Program.Listing
import StructuralGrading.Program.Outline
import StructuralGrading.Program.Tree
import StructuralGrading.Rubric.Basic
import StructuralGrading.Rubric.Fault
import StructuralGrading.Rubric.Reader
import StructuralGrading.Rubric.Scan
import StructuralGrading.Score
import StructuralGrading.Script
import StructuralGrading.Store.Access
import StructuralGrading.Store.Basic
import StructuralGrading.Store.Path
import StructuralGrading.Store.Pattern
import StructuralGrading.Store.Search
import StructuralGrading.Text.Alphanumeric
import StructuralGrading.Text.Blank
import StructuralGrading.Text.CharacterWidth
import StructuralGrading.Text.Distance
import StructuralGrading.Text.Emoji
import StructuralGrading.Text.GraphemeExtend
import StructuralGrading.Text.Lines
import StructuralGrading.Text.Quoted
import StructuralGrading.Text.Ranges
import StructuralGrading.Text.Table
import StructuralGrading.Text.Unprintable
import StructuralGrading.Text.Width
import StructuralGrading.Written
import StructuralGrading.Proofs.Flow.Layout
import StructuralGrading.Proofs.Flow.Tracing
import StructuralGrading.Proofs.Flow.Laid
import StructuralGrading.Proofs.Flow.Arrivals
import StructuralGrading.Proofs.Flow.Shape
import StructuralGrading.Proofs.Flow.Changes
import StructuralGrading.Proofs.Concept.Matching
import StructuralGrading.Proofs.Concept.Sequence
import StructuralGrading.Proofs.Flow.Append
import StructuralGrading.Proofs.Flow.View
import StructuralGrading.Proofs.Program.Alike
import StructuralGrading.Proofs.Program.Joined
import StructuralGrading.Proofs.Program.Chain
import StructuralGrading.Proofs.Program.Surface
import StructuralGrading.Proofs.Order.Extensional
import StructuralGrading.Proofs.Concept.Placewise
import StructuralGrading.Proofs.Program.FirstFault
import StructuralGrading.Proofs.Rubric.Building
import StructuralGrading.Proofs.Concept.Labels
import StructuralGrading.Proofs.Concept.Listing
import StructuralGrading.Proofs.Rubric.Awards
import StructuralGrading.Proofs.Decimal.Value
import StructuralGrading.Proofs.Decimal.Rounding
import StructuralGrading.Proofs.Score.Exact
import StructuralGrading.Proofs.Store.Access
import StructuralGrading.Proofs.Text.Parts
import StructuralGrading.Proofs.Configuration.Tasks
import StructuralGrading.Proofs.Configuration.Settings
import StructuralGrading.Proofs.Script.Looking
import StructuralGrading.Proofs.Grading.Files
import StructuralGrading.Proofs.Grading.Scale
import StructuralGrading.Proofs.Batch.Agreement
import StructuralGrading.Proofs.Store.Names
import StructuralGrading.Proofs.Store.Joining
import StructuralGrading.Proofs.Script.Pool
import StructuralGrading.Proofs.Script.Folders
import StructuralGrading.Proofs.Batch.Preparation
import StructuralGrading.Proofs.Store.Literal
import StructuralGrading.Proofs.Store.Descending
import StructuralGrading.Proofs.Store.Searching
import StructuralGrading.Proofs.Script.Making
import StructuralGrading.Proofs.Batch.Reports
import StructuralGrading.Proofs.Batch.Settling
import StructuralGrading.Proofs.Batch.Order
import StructuralGrading.Proofs.Batch.Rows
import StructuralGrading.Proofs.Batch.Depth
import StructuralGrading.Proofs.Batch.Discovery
import StructuralGrading.Proofs.Batch.Frame
import StructuralGrading.Proofs.Batch.Repeat
import StructuralGrading.Proofs.Flow.Lookups
import StructuralGrading.Proofs.Score.Similarity
import StructuralGrading.Proofs.Program.Grammar
import StructuralGrading.Proofs.Program.InOrder
import StructuralGrading.Proofs.Feedback.Reading
import StructuralGrading.Proofs.Program.Renamed
import StructuralGrading.Proofs.Program.Ascending
