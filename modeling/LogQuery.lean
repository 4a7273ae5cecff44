import LogQuery.ByteStream.Basic
import LogQuery.ByteStream.Filling
import LogQuery.ByteStream.LastDate
import LogQuery.Chart.Bitmap
import LogQuery.Chart.Layout
import LogQuery.Chart.Mode
import LogQuery.Collector
import LogQuery.Columns.Split
import LogQuery.Command.Arguments
import LogQuery.Command.Run
import LogQuery.Compression.Bits
import LogQuery.Compression.Bzip2
import LogQuery.Compression.Deflate
import LogQuery.Compression.Gzip
import LogQuery.Compression.PrefixCode
import LogQuery.Configuration
import LogQuery.Decimal.Shortest
import LogQuery.Fields
import LogQuery.Files.Disk
import LogQuery.Files.Walk
import LogQuery.Filter.Basic
import LogQuery.Filter.Parser
import LogQuery.Json.Number
import LogQuery.Json.Reader
import LogQuery.Json.Value
import LogQuery.Main
import LogQuery.Pipeline.Calls
import LogQuery.Pipeline.FullScan
import LogQuery.Pipeline.Network
import LogQuery.Pipeline.Phase
import LogQuery.Pipeline.Query
import LogQuery.Pipeline.Stage
import LogQuery.Proofs.ByteStream.Chain
import LogQuery.Proofs.ByteStream.CheckedSearch
import LogQuery.Proofs.ByteStream.Filling
import LogQuery.Proofs.ByteStream.LastDate
import LogQuery.Proofs.ByteStream.Lines
import LogQuery.Proofs.ByteStream.Segments
import LogQuery.Proofs.Chart.Frame
import LogQuery.Proofs.Chart.Polyline
import LogQuery.Proofs.Columns.OneLine
import LogQuery.Proofs.Columns.Quoting
import LogQuery.Proofs.Columns.Rejoining
import LogQuery.Proofs.Columns.Tokenizer
import LogQuery.Proofs.Configuration
import LogQuery.Proofs.Fields.Projection
import LogQuery.Proofs.Fields.Spelling
import LogQuery.Proofs.Files.Path
import LogQuery.Proofs.Files.Walk
import LogQuery.Proofs.Filter.ErrorPosition
import LogQuery.Proofs.Filter.Evaluation
import LogQuery.Proofs.Filter.Grammar
import LogQuery.Proofs.Filter.Parser
import LogQuery.Proofs.Filter.Relations
import LogQuery.Proofs.Filter.WrittenForm
import LogQuery.Proofs.Pipeline.EndToEnd
import LogQuery.Proofs.Pipeline.Failing
import LogQuery.Proofs.Pipeline.FullScan
import LogQuery.Proofs.Pipeline.LifeCycle
import LogQuery.Proofs.Pipeline.LineReader
import LogQuery.Proofs.Pipeline.Network.Composition
import LogQuery.Proofs.Pipeline.Network.Counts
import LogQuery.Proofs.Pipeline.Network.Outlook
import LogQuery.Proofs.Pipeline.Network.Progress
import LogQuery.Proofs.Pipeline.Network.Steps
import LogQuery.Proofs.Pipeline.Network.Stopping
import LogQuery.Proofs.Pipeline.Network.Tapering
import LogQuery.Proofs.Pipeline.Network.Termination
import LogQuery.Proofs.Pipeline.Stages
import LogQuery.Proofs.Pipeline.Tagging
import LogQuery.Proofs.Pipeline.Telling
import LogQuery.Proofs.Pipeline.Waiting
import LogQuery.Proofs.Report.Drawing
import LogQuery.Proofs.Report.Redrawing
import LogQuery.Proofs.SeekingReader.Checking
import LogQuery.Proofs.SeekingReader.Clearing
import LogQuery.Proofs.SeekingReader.Cutting
import LogQuery.Proofs.SeekingReader.Ending
import LogQuery.Proofs.SeekingReader.Filling
import LogQuery.Proofs.SeekingReader.Flow
import LogQuery.Proofs.SeekingReader.Reads
import LogQuery.Proofs.SeekingReader.Seeking
import LogQuery.Proofs.SeekingReader.Standing
import LogQuery.Proofs.SeekingReader.Window
import LogQuery.Proofs.Sink
import LogQuery.Proofs.Sink.Protocol
import LogQuery.Proofs.Source.Archive
import LogQuery.Proofs.Source.Catalog
import LogQuery.Proofs.Source.Category
import LogQuery.Proofs.Source.Choosing
import LogQuery.Proofs.Source.FileName
import LogQuery.Proofs.Source.HourFiles
import LogQuery.Proofs.Source.Library
import LogQuery.Proofs.Source.Rotated
import LogQuery.Proofs.Tally.Counting
import LogQuery.Proofs.Tally.Identity
import LogQuery.Proofs.Tally.Ranking
import LogQuery.Proofs.Text.Decode
import LogQuery.Proofs.Text.Numeral
import LogQuery.Proofs.Text.Outcome
import LogQuery.Proofs.Text.Split
import LogQuery.Proofs.Text.Trim
import LogQuery.Proofs.Text.Width
import LogQuery.Proofs.Time.Calendar
import LogQuery.Proofs.Time.Clock
import LogQuery.Proofs.Time.Foreign
import LogQuery.Proofs.Time.LineFormat
import LogQuery.Proofs.Time.Matching
import LogQuery.Proofs.Time.Order
import LogQuery.Proofs.Time.Reading
import LogQuery.Proofs.Time.Recognizer
import LogQuery.Proofs.Time.Reference
import LogQuery.Proofs.Time.RoundTrip
import LogQuery.Proofs.Time.Shape
import LogQuery.Proofs.Time.Tidying
import LogQuery.Proofs.Time.Width
import LogQuery.Proofs.Time.WindowSpec
import LogQuery.Proofs.Time.Writing
import LogQuery.Proofs.Time.YearInFront
import LogQuery.Proofs.Time.Yearless
import LogQuery.Proofs.Timeline
import LogQuery.Record
import LogQuery.Regex.Flags
import LogQuery.Regex.Parser
import LogQuery.Regex.Program
import LogQuery.Regex.Search
import LogQuery.Regex.Syntax
import LogQuery.Report.Basic
import LogQuery.SeekingReader
import LogQuery.Sink
import LogQuery.Source.Catalog
import LogQuery.Source.Category
import LogQuery.Source.Chain
import LogQuery.Source.FileName
import LogQuery.Source.Hourly
import LogQuery.Source.Library
import LogQuery.Tally
import LogQuery.Text.Basic
import LogQuery.Text.ControlPicture
import LogQuery.Text.Decode
import LogQuery.Text.Width
import LogQuery.Time.Calendar
import LogQuery.Time.DateTime
import LogQuery.Time.Iso
import LogQuery.Time.LineFormat
import LogQuery.Time.Reading
import LogQuery.Time.Recognizer
import LogQuery.Time.Shape
import LogQuery.Time.Window
import LogQuery.Time.WindowSpec
import LogQuery.Timeline
import LogQuery.Toml.Numeral
import LogQuery.Toml.Reader
import LogQuery.Toml.Text
import LogQuery.Toml.Value
import LogQuery.Unicode.Basic
import LogQuery.Unicode.CaseFolding
import LogQuery.Unicode.Category
import LogQuery.Unicode.CharSet
import LogQuery.Unicode.Property
import LogQuery.Unicode.Script
import LogQuery.Unicode.Width
