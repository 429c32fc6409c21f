import Ratatoskr.Lib.Run
import Ratatoskr.Lib.Rows
import Ratatoskr.Lib.Transaction
import Ratatoskr.Lib.Pool
import Ratatoskr.Lib.Protocol
import Ratatoskr.Contracts
import Ratatoskr.Schema
import Ratatoskr.Eventing.Tables
import Ratatoskr.Eventing.Inbox
import Ratatoskr.Eventing.Delivery
import Ratatoskr.Eventing.Outbox
import Ratatoskr.Eventing.Pump
import Ratatoskr.Eventing.Conservation
import Ratatoskr.Eventing.Settled
import Ratatoskr.Eventing.Redelivery
import Ratatoskr.Operations.Transition
import Ratatoskr.Operations.Record
import Ratatoskr.Operations.Authority
import Ratatoskr.Operations.Lifecycle
import Ratatoskr.Operations.Projection
import Ratatoskr.Operations.Termination
import Ratatoskr.Operations.History
import Ratatoskr.Operations.Writers
import Ratatoskr.Operations.Interleaving
import Ratatoskr.Operations.Service
import Ratatoskr.Operations.SignsOfLife
import Ratatoskr.Operations.Snapshot
import Ratatoskr.Operations.Minting
import Ratatoskr.Operations.Serving
import Ratatoskr.Operations.Dispatch
import Ratatoskr.Idempotency.Ledger
import Ratatoskr.PublicApi.Intake
import Ratatoskr.PublicApi.Admission
import Ratatoskr.PublicApi.Routes
import Ratatoskr.PublicApi.Captures
import Ratatoskr.Ingest.Webhook
import Ratatoskr.Idempotency.Keys
import Ratatoskr.Ingest.CaptureKeys
import Ratatoskr.Json
import Ratatoskr.Eventing.Subject
import Ratatoskr.Lib.Grid
import Ratatoskr.Scheduling.Cron
import Ratatoskr.Lib.Beside
import Ratatoskr.Scheduling.Tables
import Ratatoskr.Scheduling.Publisher
import Ratatoskr.Scheduling.Registration
import Ratatoskr.Scheduling.Firing
import Ratatoskr.Scheduling.FiredOnce
import Ratatoskr.Scheduling.Handling
import Ratatoskr.Scheduling.Storing
import Ratatoskr.Scheduling.Passes
import Ratatoskr.Scheduling.Reached
import Ratatoskr.Scheduling.CatchUp
import Ratatoskr.Scheduling.Disabled
import Ratatoskr.Scheduling.Intervals
import Ratatoskr.Scheduling.Stuck
import Ratatoskr.Eventing.Consumer
import Ratatoskr.Scheduling.Answers
import Ratatoskr.Identity.Routes
import Ratatoskr.Identity.Rotation
import Ratatoskr.Identity.Consistency
import Ratatoskr.Identity.Interleaving
import Ratatoskr.Identity.Chains
import Ratatoskr.Identity.Cascade
import Ratatoskr.Identity.PairingCodes
import Ratatoskr.Identity.Attempts
import Ratatoskr.Identity.Relays
import Ratatoskr.Identity.Sweeps
import Ratatoskr.Identity.Exchanges
import Ratatoskr.Identity.FirstSight
import Ratatoskr.PublicApi.Stream
import Ratatoskr.PublicApi.Cancelling
import Ratatoskr.PublicApi.Paging
import Ratatoskr.Http.Limit
import Ratatoskr.Eventing.StreamErasure
import Ratatoskr.Archives.Requests
import Ratatoskr.Archives.System
import Ratatoskr.Accounts.Barred
import Ratatoskr.Archives.Effects
import Ratatoskr.Eventing.Retention
import Ratatoskr.Http.Refill
import Ratatoskr.PublicApi.EditReports
import Ratatoskr.PublicApi.Managed
import Ratatoskr.PublicApi.SiteFollowers
import Ratatoskr.Sites.Announced
import Ratatoskr.Sites.Withdrawn
import Ratatoskr.Lib.Offers
import Ratatoskr.Eventing.LastError
import Ratatoskr.Eventing.SubjectGrammar
import Ratatoskr.Messages.Envelopes
import Ratatoskr.Messages.Identified
import Ratatoskr.Edge.RetentionLoop
import Ratatoskr.Gateway.Headers
import Ratatoskr.Http.InFlight
import Ratatoskr.Identity.StoredTexts
import Ratatoskr.Gateway.Paths
import Ratatoskr.Gateway.Upstream
import Ratatoskr.Operations.NotesConflicts
import Ratatoskr.PublicApi.Notes
import Ratatoskr.Archives.Reopening
import Ratatoskr.Archives.Reaping
import Ratatoskr.Archives.Chunks
import Ratatoskr.Archives.Lives
import Ratatoskr.Config.Model
import Ratatoskr.Config.Rules
import Ratatoskr.Gateway.Routing
import Ratatoskr.Sites.Dispatch
import Ratatoskr.Sites.Guards
import Ratatoskr.Sites.Served
import Ratatoskr.Lib.Tally
import Ratatoskr.PublicApi.OwnerChecks
import Ratatoskr.Edge.Startups
import Ratatoskr.Gateway.Loopback
import Ratatoskr.Lib.Exchanges
import Ratatoskr.Lib.Percent
import Ratatoskr.Sites.EditScopes
import Ratatoskr.Sites.EditSessions
