import PgVitals.Arguments.Grammar
import PgVitals.Arguments.Reading
import PgVitals.Arguments.Refusal
import PgVitals.Arguments.Usage
import PgVitals.Arguments.Word
import PgVitals.Catalog.Column
import PgVitals.Catalog.Fragment
import PgVitals.Catalog.Monitor
import PgVitals.Catalog.Report
import PgVitals.Catalog.Snapshot
import PgVitals.Catalog.Template
import PgVitals.Command.Access
import PgVitals.Command.Invocation
import PgVitals.Command.Line
import PgVitals.Command.Program
import PgVitals.Command.Tasks
import PgVitals.Command.Utility
import PgVitals.Csv
import PgVitals.Domain
import PgVitals.Failure
import PgVitals.Fault
import PgVitals.Files.Tree
import PgVitals.FreeSpace
import PgVitals.Main
import PgVitals.Monitor.Collector
import PgVitals.Monitor.Delta
import PgVitals.Monitor.Field
import PgVitals.Monitor.Layout
import PgVitals.Monitor.Record
import PgVitals.Monitor.Registry
import PgVitals.Monitor.Sampler
import PgVitals.Number.Decimal
import PgVitals.Number.Digits
import PgVitals.Number.Dyadic
import PgVitals.Number.Fixed
import PgVitals.Number.Power
import PgVitals.Number.Reading
import PgVitals.Number.Shortest
import PgVitals.Proofs.Catalog.Binding
import PgVitals.Proofs.Catalog.Choice
import PgVitals.Proofs.Catalog.Parity
import PgVitals.Proofs.Catalog.Rendering
import PgVitals.Proofs.Command.Exit
import PgVitals.Proofs.Command.Heedless
import PgVitals.Proofs.Command.Jobs
import PgVitals.Proofs.Command.Judging
import PgVitals.Proofs.Command.Leaving
import PgVitals.Proofs.Command.Working
import PgVitals.Proofs.Csv.Decoding
import PgVitals.Proofs.Files.Append
import PgVitals.Proofs.Files.Below
import PgVitals.Proofs.FreeSpace.Display
import PgVitals.Proofs.FreeSpace.Shades
import PgVitals.Proofs.Interruption
import PgVitals.Proofs.Monitor.Columns
import PgVitals.Proofs.Monitor.Difference
import PgVitals.Proofs.Monitor.Ending
import PgVitals.Proofs.Monitor.Observed
import PgVitals.Proofs.Monitor.Readable
import PgVitals.Proofs.Monitor.Samples
import PgVitals.Proofs.Monitor.Schedule
import PgVitals.Proofs.Monitor.Sizes
import PgVitals.Proofs.Monitor.Sources
import PgVitals.Proofs.Monitor.Steps
import PgVitals.Proofs.Monitor.Totals
import PgVitals.Proofs.Monitor.Turns
import PgVitals.Proofs.Refusals
import PgVitals.Proofs.Release.Identification
import PgVitals.Proofs.Release.Numerals
import PgVitals.Proofs.Release.Order
import PgVitals.Proofs.Release.ReadBack
import PgVitals.Proofs.Report.Agreement
import PgVitals.Proofs.Report.Course
import PgVitals.Proofs.Report.Exclusion
import PgVitals.Proofs.Report.Lines
import PgVitals.Proofs.Report.Moments
import PgVitals.Proofs.Report.Ownership
import PgVitals.Proofs.Report.Preparation
import PgVitals.Proofs.Report.Presenting
import PgVitals.Proofs.Session.Answers
import PgVitals.Proofs.Session.Asks
import PgVitals.Proofs.Session.Cancelling
import PgVitals.Proofs.Session.Following
import PgVitals.Proofs.Session.Heedless
import PgVitals.Proofs.Session.InFlight
import PgVitals.Proofs.Session.Objects
import PgVitals.Proofs.Session.Obliging
import PgVitals.Proofs.Session.Perform
import PgVitals.Proofs.Session.Refusals
import PgVitals.Proofs.Session.Returning
import PgVitals.Proofs.Session.Saying
import PgVitals.Proofs.Session.Stretch
import PgVitals.Proofs.Session.Together
import PgVitals.Proofs.Session.Waiting
import PgVitals.Proofs.Session.Working
import PgVitals.Proofs.Settings.Loading
import PgVitals.Proofs.Snapshot.Dumps
import PgVitals.Proofs.Snapshot.Frame
import PgVitals.Proofs.Snapshot.History
import PgVitals.Proofs.Snapshot.Planning
import PgVitals.Proofs.Snapshot.StatementTexts
import PgVitals.Proofs.Sorting
import PgVitals.Proofs.Table.Drawing
import PgVitals.Proofs.Text.Classes
import PgVitals.Proofs.Text.Parts
import PgVitals.Proofs.Text.Words
import PgVitals.Proofs.Trace.History
import PgVitals.Proofs.Trace.Places
import PgVitals.Proofs.Trace.Protocol
import PgVitals.Proofs.Trace.Sharing
import PgVitals.Proofs.Trace.Sightings
import PgVitals.Proofs.Trace.Teardown
import PgVitals.Proofs.Trace.Turns
import PgVitals.Proofs.Trace.Watching
import PgVitals.Proofs.Value.Characters
import PgVitals.Release
import PgVitals.Release.Reading
import PgVitals.Report.Live
import PgVitals.Report.Script
import PgVitals.Report.Titled
import PgVitals.Session.Connect
import PgVitals.Session.Event
import PgVitals.Session.Query
import PgVitals.Session.Run
import PgVitals.Session.Signal
import PgVitals.Session.Terminal
import PgVitals.Session.Wait
import PgVitals.Settings
import PgVitals.Settings.Load
import PgVitals.Snapshot.Dump
import PgVitals.Snapshot.Plan
import PgVitals.Sorting
import PgVitals.Statement
import PgVitals.Table.Cell
import PgVitals.Table.Kind
import PgVitals.Table.Ruled
import PgVitals.Text.Blank
import PgVitals.Text.Digit
import PgVitals.Text.Escape
import PgVitals.Text.Layout
import PgVitals.Text.Lower
import PgVitals.Text.Printable
import PgVitals.Text.Quoted
import PgVitals.Text.Ranges
import PgVitals.Text.Split
import PgVitals.Text.Word
import PgVitals.Text.Wrap
import PgVitals.Time.Calendar
import PgVitals.Time.Interval
import PgVitals.Trace.Helper
import PgVitals.Trace.Histogram
import PgVitals.Trace.Tracer
import PgVitals.Value
import PgVitals.Value.Fixed
import PgVitals.Yaml
import PgVitals.Yaml.Base64
import PgVitals.Yaml.Cursor
import PgVitals.Yaml.Document
import PgVitals.Yaml.Lexer
import PgVitals.Yaml.Node
import PgVitals.Yaml.Product
import PgVitals.Yaml.Scalar
import PgVitals.Yaml.ScalarValue
import PgVitals.Yaml.Schema
import PgVitals.Yaml.Token
