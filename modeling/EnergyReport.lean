import EnergyReport.Binary.Base64
import EnergyReport.Chart.Comparison
import EnergyReport.Chart.Grade
import EnergyReport.Chart.Ladder
import EnergyReport.Chart.LossCategory
import EnergyReport.Chart.Losses
import EnergyReport.Chart.Style
import EnergyReport.Color.Rgb
import EnergyReport.Color.Theme
import EnergyReport.Command.Arguments
import EnergyReport.Command.Help
import EnergyReport.Command.Run
import EnergyReport.Command.Survey
import EnergyReport.Config.Expansion
import EnergyReport.Config.Settings
import EnergyReport.Document.Date
import EnergyReport.Document.Image
import EnergyReport.Document.MediaType
import EnergyReport.Document.Options
import EnergyReport.Document.Page
import EnergyReport.Document.Pipeline
import EnergyReport.Document.Stylesheet
import EnergyReport.Files.Basic
import EnergyReport.Files.Path
import EnergyReport.Files.Tree
import EnergyReport.Html.Piece
import EnergyReport.Json.Basic
import EnergyReport.Json.Number
import EnergyReport.Json.Reader
import EnergyReport.Json.Writer
import EnergyReport.Main
import EnergyReport.Markup.Block
import EnergyReport.Markup.Callout
import EnergyReport.Markup.Directive
import EnergyReport.Markup.Inline
import EnergyReport.Markup.Line
import EnergyReport.Markup.Reading
import EnergyReport.Markup.Section
import EnergyReport.Markup.Table
import EnergyReport.Markup.Transition
import EnergyReport.Number.Binary64
import EnergyReport.Number.Decimal
import EnergyReport.Proofs.Chart.Drawing
import EnergyReport.Proofs.Chart.Grade
import EnergyReport.Proofs.Chart.Ordinary
import EnergyReport.Proofs.Chart.Safety
import EnergyReport.Proofs.Color.Rgb
import EnergyReport.Proofs.Command.Deletion
import EnergyReport.Proofs.Command.Delivery
import EnergyReport.Proofs.Command.Images
import EnergyReport.Proofs.Command.Theme
import EnergyReport.Proofs.Config.Loading
import EnergyReport.Proofs.Document.Contents
import EnergyReport.Proofs.Document.Ordinary
import EnergyReport.Proofs.Document.Reading
import EnergyReport.Proofs.Document.Safety
import EnergyReport.Proofs.Document.Surroundings
import EnergyReport.Proofs.Document.Vocabulary
import EnergyReport.Proofs.Files.Path
import EnergyReport.Proofs.Files.Tree
import EnergyReport.Proofs.Html.Characters
import EnergyReport.Proofs.Html.Entries
import EnergyReport.Proofs.Html.Nesting
import EnergyReport.Proofs.Html.Plain
import EnergyReport.Proofs.Html.Rendering
import EnergyReport.Proofs.Html.Tokens
import EnergyReport.Proofs.Json.Reader
import EnergyReport.Proofs.Json.Writer
import EnergyReport.Proofs.Markup.Banner
import EnergyReport.Proofs.Markup.Closing
import EnergyReport.Proofs.Markup.Composition
import EnergyReport.Proofs.Markup.Crossing
import EnergyReport.Proofs.Markup.Directive
import EnergyReport.Proofs.Markup.Emphasis
import EnergyReport.Proofs.Markup.Fragment
import EnergyReport.Proofs.Markup.Grammar
import EnergyReport.Proofs.Markup.Inline
import EnergyReport.Proofs.Markup.Insertion
import EnergyReport.Proofs.Markup.Margin
import EnergyReport.Proofs.Markup.Nesting
import EnergyReport.Proofs.Markup.Numbering
import EnergyReport.Proofs.Markup.PriorityWord
import EnergyReport.Proofs.Markup.Reading
import EnergyReport.Proofs.Markup.Safety
import EnergyReport.Proofs.Markup.Source
import EnergyReport.Proofs.Markup.State
import EnergyReport.Proofs.Markup.Table
import EnergyReport.Proofs.Markup.Transition
import EnergyReport.Proofs.Markup.Trimming
import EnergyReport.Proofs.Markup.Weight
import EnergyReport.Proofs.Markup.WholeWord
import EnergyReport.Proofs.Number.Whole
import EnergyReport.Proofs.Report.AnalysisLines
import EnergyReport.Proofs.Report.Capture
import EnergyReport.Proofs.Report.Cell
import EnergyReport.Proofs.Report.Decoding
import EnergyReport.Proofs.Report.DirectRow
import EnergyReport.Proofs.Report.Figure
import EnergyReport.Proofs.Report.GradeLetter
import EnergyReport.Proofs.Report.GradeRow
import EnergyReport.Proofs.Report.InjectedTwice
import EnergyReport.Proofs.Report.InsertedCharts
import EnergyReport.Proofs.Report.InsertedGrade
import EnergyReport.Proofs.Report.InsertedLines
import EnergyReport.Proofs.Report.Insertion
import EnergyReport.Proofs.Report.LineEnding
import EnergyReport.Proofs.Report.LossLine
import EnergyReport.Proofs.Report.Phrase
import EnergyReport.Proofs.Report.Safety
import EnergyReport.Proofs.Text.Basic
import EnergyReport.Proofs.Text.LineEnding
import EnergyReport.Proofs.Text.Margin
import EnergyReport.Proofs.Text.Search
import EnergyReport.Proofs.Text.Splice
import EnergyReport.Proofs.Text.Substitution
import EnergyReport.Report.Injection
import EnergyReport.Report.Phrase
import EnergyReport.Report.Summary
import EnergyReport.Text.Alphabetic
import EnergyReport.Text.Basic
import EnergyReport.Text.Blank
import EnergyReport.Text.Case
import EnergyReport.Text.Digit
import EnergyReport.Text.Printable
import EnergyReport.Text.Quoted
import EnergyReport.Text.Ranges
import EnergyReport.Text.Utf8
import EnergyReport.Toml.Basic
import EnergyReport.Toml.Plain
import EnergyReport.Toml.Quoted
import EnergyReport.Toml.Reader
import EnergyReport.Proofs.Chart.LossCategory
import EnergyReport.Proofs.Html.Elements
import EnergyReport.Proofs.Chart.Losses
import EnergyReport.Proofs.Chart.Payload
import EnergyReport.Proofs.Chart.Circle
import EnergyReport.Proofs.Color.Hexadecimal
import EnergyReport.Proofs.Config.Expansion
import EnergyReport.Proofs.Number.Rounding
import EnergyReport.Proofs.Number.Packing
import EnergyReport.Proofs.Number.Arithmetic
import EnergyReport.Proofs.Number.Exact
import EnergyReport.Proofs.Chart.Overflow
import EnergyReport.Proofs.Number.Ordered
import EnergyReport.Proofs.Color.Tint
