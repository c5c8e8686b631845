import ReadLater.Json.Value
import ReadLater.Json.Read
import ReadLater.Text.Printable
import ReadLater.Text.Quote
import ReadLater.Json.Write
import ReadLater.Problem
import ReadLater.Text.Case
import ReadLater.Text.Space
import ReadLater.Crypto.Sha256
import ReadLater.Clock.Civil
import ReadLater.Clock.Instant
import ReadLater.Store.Fault
import ReadLater.Store.Table
import ReadLater.Catalog.Item
import ReadLater.Catalog.Entry
import ReadLater.Catalog.Source
import ReadLater.Catalog.Profile
import ReadLater.Store.Rows
import ReadLater.Store.Database
import ReadLater.Store.Repository
import ReadLater.Store.Migration
import ReadLater.Log
import ReadLater.Metrics
import ReadLater.Ambient
import ReadLater.Store.Txn
import ReadLater.Markup.Entity
import ReadLater.Markup.Tokenizer
import ReadLater.Markup.Strip
import ReadLater.Content
import ReadLater.Feed.Discovery
import ReadLater.Xml.Decoder
import ReadLater.Xml.Cursor
import ReadLater.Feed.Model
import ReadLater.Feed.Dates
import ReadLater.Feed.Elements
import ReadLater.Feed.Rss
import ReadLater.Feed.Atom
import ReadLater.Feed.JsonFeed
import ReadLater.Feed.Reader
import ReadLater.Feed.Convert
import ReadLater.Feed.Fetch
import ReadLater.Clock.Duration
import ReadLater.Config
import ReadLater.Ingest
import ReadLater.Triage
import ReadLater.Subscription
import ReadLater.Identity
import ReadLater.Json.Decode
import ReadLater.Sync.Arguments
import ReadLater.Sync.Mutation
import ReadLater.Sync.Ledger
import ReadLater.Store.Schema
import ReadLater.Text.FilePath
import ReadLater.Text.Utf8
import ReadLater.Net.Url
import ReadLater.Net.Address
import ReadLater.Net.Guard
import ReadLater.Store.Key
import ReadLater.Store.Postgres
import ReadLater.Workers
import ReadLater.Actors
import ReadLater.Store.Script
import ReadLater.Clock.Layout
import ReadLater.Clock.Guess
import ReadLater.Clock.Published
import ReadLater.Service
import ReadLater.Text.Base64
import ReadLater.Crypto.Hmac
import ReadLater.Http.Message
import ReadLater.Http.Token
import ReadLater.Http.RateLimit
import ReadLater.Http.Route
import ReadLater.Http.Handlers
import ReadLater.Http.Api
import ReadLater.App
import ReadLater.Http.Standalone
import ReadLater.Main
import ReadLater.Proofs.Store.Writes
import ReadLater.Proofs.Store.Transaction
import ReadLater.Proofs.Store.Stamp
import ReadLater.Proofs.Confinement
import ReadLater.Proofs.Settlement
import ReadLater.Proofs.Sync.Processing
import ReadLater.Proofs.Operation
import ReadLater.Proofs.Sync.Replay
import ReadLater.Proofs.Sync.Answer
import ReadLater.Proofs.Sync.Arguments
import ReadLater.Proofs.Sync.Chronicle
import ReadLater.Proofs.RowVersions
import ReadLater.Proofs.Store.Keys
import ReadLater.Proofs.Soundness
import ReadLater.Proofs.Store.SchemaUpdate
import ReadLater.Proofs.Triage.Standing
import ReadLater.Proofs.Triage.Transaction
import ReadLater.Proofs.Triage.History
import ReadLater.Proofs.Store.Identities
import ReadLater.Proofs.Deduplication
import ReadLater.Proofs.Store.Succession
import ReadLater.Proofs.Sync.View
import ReadLater.Proofs.Sync.PullAnswer
import ReadLater.Proofs.Sync.Convergence
import ReadLater.Proofs.Sync.Rejection
import ReadLater.Proofs.Ingest.Lockstep
import ReadLater.Proofs.Ingest.Runs
import ReadLater.Proofs.Ingest.Batches
import ReadLater.Proofs.Ingest.Accounting
import ReadLater.Proofs.Content.Cleaning
import ReadLater.Proofs.Content.Stored
import ReadLater.Proofs.Content.Retention
import ReadLater.Proofs.Tenancy.Requests
import ReadLater.Proofs.Net.Admission
import ReadLater.Proofs.Feed.Durations
import ReadLater.Proofs.ProfileFold
import ReadLater.Proofs.Store.Frames
import ReadLater.Proofs.Sync.Metering
import ReadLater.Proofs.Tenancy.Counters
import ReadLater.Proofs.Tenancy.SyncMetrics
import ReadLater.Proofs.VersionTicket
import ReadLater.Proofs.Store.Manifest
import ReadLater.Proofs.Feed.Choice
import ReadLater.Proofs.Actors.Steps
import ReadLater.Proofs.Actors.Ownership
import ReadLater.Proofs.Actors.Delivery
import ReadLater.Proofs.Actors.Progress
import ReadLater.Proofs.Actors.Shutdown
