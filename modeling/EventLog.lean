import EventLog.Text.Utf8
import EventLog.Text.Invisible
import EventLog.Text.Blank
import EventLog.Text.Digits
import EventLog.Text.Quoted
import EventLog.Text.Style
import EventLog.Text.Shorten
import EventLog.Duration
import EventLog.Duration.Display
import EventLog.Duration.Reader
import EventLog.Calendar
import EventLog.Instant
import EventLog.Instant.Display
import EventLog.Instant.Reader
import EventLog.Decimal.Binary64
import EventLog.Decimal.Shortest
import EventLog.Text.Ascii
import EventLog.Json.Mismatch
import EventLog.Json.Fault
import EventLog.Json.Word
import EventLog.Json.Number
import EventLog.Json.Text
import EventLog.Json.Skip
import EventLog.Range
import EventLog.Json.Reader
import EventLog.Json.Shape
import EventLog.Json.Printer
import EventLog.Record
import EventLog.Record.Encoding
import EventLog.Record.Display
import EventLog.Record.Kind
import EventLog.Limits
import EventLog.Source
import EventLog.Line
import EventLog.Feed
import EventLog.Stream.Failure
import EventLog.Notice
import EventLog.Stream
import EventLog.Stream.Session
import EventLog.Toml.Parser
import EventLog.Toml.Node
import EventLog.Toml.Grammar
import EventLog.Disk
import EventLog.Settings
import EventLog.Filter
import EventLog.CommandLine
import EventLog.Report
import EventLog.Main
import EventLog.Proofs.Text.Utf8
import EventLog.Proofs.Text.Digits
import EventLog.Proofs.Text.Shorten
import EventLog.Proofs.Calendar
import EventLog.Proofs.Instant
import EventLog.Proofs.Instant.Millis
import EventLog.Proofs.Json.Written
import EventLog.Proofs.Json.Strings
import EventLog.Proofs.Json.Numbers
import EventLog.Proofs.Json.Objects
import EventLog.Proofs.Json.Preservation
import EventLog.Proofs.Source
import EventLog.Proofs.Log
import EventLog.Proofs.Line
import EventLog.Proofs.Feed
import EventLog.Proofs.Stream
import EventLog.Proofs.Stream.Search
import EventLog.Proofs.Stream.Reading
import EventLog.Proofs.Stream.Run
import EventLog.Proofs.Stream.Closing
import EventLog.Proofs.Record.RoundTrip
import EventLog.Proofs.Record.Truncation
import EventLog.Proofs.Duration
import EventLog.Proofs.Stream.Account
import EventLog.Proofs.Stream.Ended
import EventLog.Proofs.Feed.End
import EventLog.Proofs.Stream.UntilEnd
import EventLog.Proofs.Stream.EndOfData
import EventLog.Proofs.Json.Grammar
import EventLog.Proofs.Json.Literals
import EventLog.Proofs.Json.Numerals
import EventLog.Proofs.Json.Values
import EventLog.Proofs.Json.Spelling
import EventLog.Proofs.Json.Records
import EventLog.Proofs.Json.Unambiguous
import EventLog.Proofs.Record.Spelling
import EventLog.Proofs.Report
import EventLog.Proofs.Report.FedBack
import EventLog.Proofs.Report.Parts
import EventLog.Proofs.Stream.LineEnds
import EventLog.Proofs.Stream.Calls
import EventLog.Proofs.Stream.Quiet
import EventLog.Proofs.Stream.NoCloser
import EventLog.Proofs.Stream.Verdict
import EventLog.Proofs.Stream.Notices
import EventLog.Proofs.Duration.Grammar
import EventLog.Proofs.Duration.Precision
import EventLog.Proofs.Record.Elapsed
import EventLog.Proofs.Feed.Traffic
import EventLog.Proofs.Stream.Traffic
import EventLog.Proofs.Record.Clock
import EventLog.Proofs.Record.Display
import EventLog.Proofs.Report.Lines
import EventLog.Proofs.Settings
import EventLog.Proofs.Report.Limits
import EventLog.Proofs.Duration.Careful
import EventLog.Proofs.Feed.Conservation
