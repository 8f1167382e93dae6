import SyncQueue.CommandLine.Directive
import SyncQueue.CommandLine.Failure
import SyncQueue.CommandLine.LogFilter
import SyncQueue.CommandLine.Options
import SyncQueue.CommandLine.Run
import SyncQueue.CommandLine.Similarity
import SyncQueue.CommandLine.Styled
import SyncQueue.Connection.Address
import SyncQueue.Connection.Basic
import SyncQueue.Connection.FileUri
import SyncQueue.Connection.Url
import SyncQueue.EnvFile.Assignment
import SyncQueue.EnvFile.Lines
import SyncQueue.EnvFile.Value
import SyncQueue.Files.Directory
import SyncQueue.Host.Address
import SyncQueue.Host.Composition
import SyncQueue.Host.Direction
import SyncQueue.Host.Joining
import SyncQueue.Host.Name
import SyncQueue.Host.Punycode
import SyncQueue.Host.Refused
import SyncQueue.Host.Replacement
import SyncQueue.Job.Document
import SyncQueue.Job.Execution
import SyncQueue.Job.Report
import SyncQueue.Job.Row
import SyncQueue.Job.Status
import SyncQueue.Json.Printer
import SyncQueue.Json.Reader
import SyncQueue.Json.Schema
import SyncQueue.Json.Syntax
import SyncQueue.Json.Value
import SyncQueue.Main
import SyncQueue.Number.Binary64
import SyncQueue.Number.Reading
import SyncQueue.Number.Shortest
import SyncQueue.Number.Width
import SyncQueue.Proofs.Accepted
import SyncQueue.Proofs.Accounts
import SyncQueue.Proofs.Attempts
import SyncQueue.Proofs.BreakerState
import SyncQueue.Proofs.Budget
import SyncQueue.Proofs.ClaimOrder
import SyncQueue.Proofs.Claiming
import SyncQueue.Proofs.Commuting
import SyncQueue.Proofs.Custody
import SyncQueue.Proofs.Decimals
import SyncQueue.Proofs.Documents
import SyncQueue.Proofs.Doubling
import SyncQueue.Proofs.DueTimes
import SyncQueue.Proofs.Dump
import SyncQueue.Proofs.Environment
import SyncQueue.Proofs.FailureCount
import SyncQueue.Proofs.Idempotency
import SyncQueue.Proofs.InsertRace
import SyncQueue.Proofs.Jitter
import SyncQueue.Proofs.JobLife
import SyncQueue.Proofs.JobMoves
import SyncQueue.Proofs.Layers
import SyncQueue.Proofs.Ledger
import SyncQueue.Proofs.Literals
import SyncQueue.Proofs.Loop
import SyncQueue.Proofs.Masking
import SyncQueue.Proofs.Meets
import SyncQueue.Proofs.Moves
import SyncQueue.Proofs.Pass
import SyncQueue.Proofs.Pauses
import SyncQueue.Proofs.Processing
import SyncQueue.Proofs.Profile
import SyncQueue.Proofs.Renewal
import SyncQueue.Proofs.Retries
import SyncQueue.Proofs.Rounding
import SyncQueue.Proofs.Rows
import SyncQueue.Proofs.Serving
import SyncQueue.Proofs.Shutdown
import SyncQueue.Proofs.Telemetry
import SyncQueue.Proofs.Tracking
import SyncQueue.Proofs.Transactions
import SyncQueue.Proofs.Unfinalized
import SyncQueue.Proofs.Windows
import SyncQueue.Queue.Attempt
import SyncQueue.Queue.Backoff
import SyncQueue.Queue.Breaker
import SyncQueue.Queue.Computation
import SyncQueue.Queue.Consumer
import SyncQueue.Queue.Error
import SyncQueue.Queue.Fleet
import SyncQueue.Queue.Lifecycle
import SyncQueue.Queue.Metrics
import SyncQueue.Queue.Notice
import SyncQueue.Queue.Queries
import SyncQueue.Queue.Requests
import SyncQueue.Queue.Scheduler
import SyncQueue.Queue.Tracker
import SyncQueue.Queue.Worker
import SyncQueue.Queue.World
import SyncQueue.Scenario.Label
import SyncQueue.Scenario.Play
import SyncQueue.Scenario.Report
import SyncQueue.Scenario.Step
import SyncQueue.Settings.Basic
import SyncQueue.Settings.Document
import SyncQueue.Settings.Loading
import SyncQueue.Settings.Plan
import SyncQueue.Settings.Redaction
import SyncQueue.Store.Catalog
import SyncQueue.Store.CatalogText
import SyncQueue.Store.Database
import SyncQueue.Store.Document
import SyncQueue.Store.Error
import SyncQueue.Store.Migration
import SyncQueue.Store.Outage
import SyncQueue.Store.Statement
import SyncQueue.Store.Tables
import SyncQueue.Text.Alphanumeric
import SyncQueue.Text.Blank
import SyncQueue.Text.Control
import SyncQueue.Text.Decimal
import SyncQueue.Text.Pattern
import SyncQueue.Text.Pattern.Reader
import SyncQueue.Text.Percent
import SyncQueue.Text.Printable
import SyncQueue.Text.Quoted
import SyncQueue.Text.Split
import SyncQueue.Text.Utf8
import SyncQueue.Time.Calendar
import SyncQueue.Time.Instant
import SyncQueue.Time.Zoned
import SyncQueue.Uuid
