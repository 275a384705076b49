import ChartText.Command.Arguments
import ChartText.Command.Run
import ChartText.Command.World
import ChartText.Main
import ChartText.Proofs.Lists
import ChartText.Proofs.Source.Values
import ChartText.Proofs.Source.Lines
import ChartText.Proofs.Source.WellFormed
import ChartText.Proofs.Source.Malformed
import ChartText.Proofs.Number.Characters
import ChartText.Proofs.Source.Joined
import ChartText.Proofs.Source.Tables
import ChartText.Proofs.Json.Lexing
import ChartText.Proofs.Json.RoundTrip
import ChartText.Proofs.Json.Number
import ChartText.Proofs.Json.Literal
import ChartText.Proofs.Chart.RoundTrip
import ChartText.Proofs.Drawing.Cells
import ChartText.Proofs.Source.Messages
import ChartText.Proofs.Text.Unescape
import ChartText.Proofs.Rendering.Envelope
import ChartText.Proofs.Rendering.FrontEnds
import ChartText.Proofs.Text.Reflow
import ChartText.Proofs.Svg.Pieces
import ChartText.Proofs.Svg.Document
import ChartText.Proofs.Drawing.Drawn
import ChartText.Proofs.Drawing.Blank
import ChartText.Proofs.Drawing.Skeleton
import ChartText.Proofs.Text.Occurrences
import ChartText.Proofs.Svg.Marks
import ChartText.Proofs.Layout.Exact
import ChartText.Proofs.Layout.Shares
import ChartText.Proofs.Drawing.Tally
import ChartText.Proofs.Source.Prefixes
import ChartText.Proofs.Number.Order
import ChartText.Proofs.Number.Rounding
import ChartText.Proofs.Number.Totals
import ChartText.Proofs.Drawing.Refused
import ChartText.Proofs.Drawing.Positive
import ChartText.Proofs.Settings.Room
import ChartText.Proofs.Settings.Discovery
import ChartText.Proofs.Command.Surroundings
import ChartText.Proofs.Command.World
import ChartText.Proofs.Command.Answers
import ChartText.Proofs.Source.Layout
import ChartText.Proofs.Drawing.Verdict
import ChartText.Proofs.Source.Rows
import ChartText.Proofs.Source.Pieces
import ChartText.Proofs.Drawing.Documents
import ChartText.Proofs.Embedding.Copying
import ChartText.Proofs.Command.Tasks
import ChartText.Proofs.Command.ExitCodes
import ChartText.Proofs.Command.Outputs
import ChartText.Proofs.Svg.Contents
import ChartText.Proofs.Drawing.Labels
import ChartText.Proofs.Text.Filled
import ChartText.Proofs.Svg.Filled
import ChartText.Proofs.Drawing.Filled
import ChartText.Proofs.Embedding.Block
import ChartText.Proofs.Number.Exact
import ChartText.Proofs.Layout.Marks
import ChartText.Proofs.Layout.Placement
import ChartText.Proofs.Layout.Reading
import ChartText.Proofs.Drawing.Placed
import ChartText.Proofs.Drawing.Shares
import ChartText.Proofs.Source.Fields
import ChartText.Proofs.Source.FirstValues
import ChartText.Proofs.Drawing.Alone
import ChartText.Proofs.Number.Bits
import ChartText.Proofs.Settings.Precedence
import ChartText.Proofs.Number.Decimals
import ChartText.Proofs.Number.Spelling
import ChartText.Proofs.Source.Numbers
import ChartText.Proofs.Embedding.Languages
import ChartText.Proofs.Report.Terminal
import ChartText.Proofs.Drawing.Ticks
import ChartText.Proofs.Report.Coloring
