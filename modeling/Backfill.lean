import Backfill.Calendar.Date
import Backfill.Calendar.Instant
import Backfill.Calendar.Stamp
import Backfill.Command
import Backfill.CommandLine.Help
import Backfill.CommandLine.Invocation
import Backfill.CommandLine.Number
import Backfill.CommandLine.Options
import Backfill.CommandLine.Reading
import Backfill.Decimal.Binary64
import Backfill.Decimal.Shortest
import Backfill.Domain
import Backfill.Domain.Characters
import Backfill.Domain.Direction
import Backfill.Domain.Joiner
import Backfill.Domain.Punycode
import Backfill.Entity
import Backfill.Event
import Backfill.Event.Filter
import Backfill.Event.Line
import Backfill.Failure
import Backfill.Files
import Backfill.Graph.Address
import Backfill.Graph.Memory
import Backfill.Graph.Node
import Backfill.Graph.Server
import Backfill.Graph.Statement
import Backfill.Graph.Store
import Backfill.Graph.Value
import Backfill.Journal
import Backfill.Key
import Backfill.Main
import Backfill.Program
import Backfill.Proofs.Accounting
import Backfill.Proofs.Attempts
import Backfill.Proofs.Backoff
import Backfill.Proofs.CivilTimes
import Backfill.Proofs.Colour
import Backfill.Proofs.CommandLineGrammar
import Backfill.Proofs.Completion
import Backfill.Proofs.Concatenation
import Backfill.Proofs.Convergence
import Backfill.Proofs.Dates
import Backfill.Proofs.Decoding
import Backfill.Proofs.DistinctKeys
import Backfill.Proofs.DryRun
import Backfill.Proofs.EventLog
import Backfill.Proofs.FailureModes
import Backfill.Proofs.KeyTexts
import Backfill.Proofs.KindsApart
import Backfill.Proofs.LastWrite
import Backfill.Proofs.Legs
import Backfill.Proofs.LostAcknowledgements
import Backfill.Proofs.Nodes
import Backfill.Proofs.Parameters
import Backfill.Proofs.Precedence
import Backfill.Proofs.RetryLoop
import Backfill.Proofs.RowOrder
import Backfill.Proofs.SettingsDocument
import Backfill.Proofs.SettingsPlaces
import Backfill.Proofs.SettingsReading
import Backfill.Proofs.Stamps
import Backfill.Proofs.Stops
import Backfill.Proofs.SyncCommand
import Backfill.Proofs.Turns
import Backfill.Proofs.Utf8
import Backfill.Proofs.WriteOrder
import Backfill.Proofs.WrittenValues
import Backfill.Retry
import Backfill.Row
import Backfill.Settings
import Backfill.Settings.Document
import Backfill.Settings.File
import Backfill.Settings.Schema
import Backfill.Source.Decode
import Backfill.Source.Fault
import Backfill.Source.Server
import Backfill.Source.Session
import Backfill.Sync.Attempt
import Backfill.Sync.Report
import Backfill.Sync.Run
import Backfill.Terminal
import Backfill.Text.Alphanumeric
import Backfill.Text.Blank
import Backfill.Text.Composed
import Backfill.Text.Digits
import Backfill.Text.Graphic
import Backfill.Text.Paint
import Backfill.Text.Plain
import Backfill.Text.Quoted
import Backfill.Text.Ranges
import Backfill.Text.Utf8
import Backfill.Toml.Document
import Backfill.Toml.Number
import Backfill.Toml.Text
import Backfill.Toml.Value
