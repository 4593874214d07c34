import Lnrent.Relational.Table
import Lnrent.Relational.Journal
import Lnrent.Transition.Machine
import Lnrent.Transition.Rank
import Lnrent.Transition.Backoff
import Lnrent.Store.Schema
import Lnrent.Daemon.Reservation
import Lnrent.Daemon.Capture
import Lnrent.Daemon.CatchUp
import Lnrent.Daemon.OrderIntake
import Lnrent.Daemon.Provision
import Lnrent.Daemon.Resume
import Lnrent.Daemon.Reconcile
import Lnrent.Daemon.Ledger
import Lnrent.Daemon.Provenance
import Lnrent.Daemon.Surplus
import Lnrent.Store.Maintenance
import Lnrent.Reaper.Invisible
import Lnrent.Daemon.Refund
import Lnrent.Daemon.System
import Lnrent.Billing.Turn
import Lnrent.Billing.RenewalLead
import Lnrent.Billing.Pending
import Lnrent.Billing.Retention
import Lnrent.Capacity.View
import Lnrent.Capacity.Intake
import Lnrent.Capacity.OneOrder
import Lnrent.Transition.Threads
import Lnrent.Transition.Faulty
import Lnrent.Search.Greatest
import Lnrent.Search.Paging
import Lnrent.Listing.Publication
import Lnrent.Daemon.OpDispatch
import Lnrent.Listing.Crossing
import Lnrent.Dispatch.OnceOnly
import Lnrent.Daemon.NostrEngine
import Lnrent.Inbound.Routing
import Lnrent.Daemon.Backfill
import Lnrent.Inbound.Backlog
import Lnrent.Capacity.Agreement
import Lnrent.Daemon.Provisioner
import Lnrent.Cleanup.Tracking
import Lnrent.Daemon.Lifecycle
import Lnrent.Power.Agreement
import Lnrent.Daemon.Sweeper
import Lnrent.Sweep.Release
import Lnrent.Daemon.Lnv2Pay
import Lnrent.Lnv2.PayMap
import Lnrent.Daemon.PhoenixdPay
import Lnrent.Phoenixd.PayMap
import Lnrent.Serde.Document
import Lnrent.Serde.Record
import Lnrent.Wire.Dm
import Lnrent.Wire.Codec
import Lnrent.Client.Buyer
import Lnrent.Client.Reply
import Lnrent.Daemon.Manifest
import Lnrent.Wire.ListingRoundTrip
import Lnrent.Daemon.Outbox
import Lnrent.Outbox.Change
import Lnrent.Outbox.Parked
import Lnrent.Outbox.Outcome
import Lnrent.Daemon.Teardown
import Lnrent.Teardown.Owed
import Lnrent.Daemon.LegacyImport
import Lnrent.Import.AllOrNothing
import Lnrent.Import.Convergence
import Lnrent.Daemon.Backup
import Lnrent.Backup.RoundTrip
import Lnrent.Daemon.Restore
import Lnrent.Backup.AllOrNothing
import Lnrent.Import.Coverage
import Lnrent.Daemon.Issuance
import Lnrent.Relational.Versions
import Lnrent.Daemon.PhoenixdReceive
import Lnrent.Daemon.Lnv2Receive
import Lnrent.Receive.Books
import Lnrent.Phoenixd.ReceiveMap
import Lnrent.Lnv2.ReceiveMap
import Lnrent.Receive.Agreement
import Lnrent.Receive.OneLive
import Lnrent.Daemon.PhoenixdWatch
import Lnrent.Phoenixd.Settled
import Lnrent.Daemon.Lnv2Watch
import Lnrent.Lnv2.Tasks
import Lnrent.Lnv2.Settled
import Lnrent.Billing.Boundary
import Lnrent.Billing.Recovered
import Lnrent.Daemon.Refunder
import Lnrent.Refund.Budget
import Lnrent.Refund.Generations
import Lnrent.Refund.Gate
import Lnrent.Refund.PaidOnce
import Lnrent.Daemon.RefundQuote
import Lnrent.Refund.Quote
import Lnrent.Net.Address
import Lnrent.Daemon.RefundResolver
import Lnrent.Refund.Guard
import Lnrent.Wire.FirstTag
import Lnrent.Recency.Chain
import Lnrent.Daemon.RateLimiter
import Lnrent.Inbound.RateLimit
import Lnrent.Daemon.Bootstrap
import Lnrent.Bootstrap.Pins
import Lnrent.Receipts.OneFigure
import Lnrent.Readiness.CountedOnce
import Lnrent.Accounts.PaidOnce
import Lnrent.Accounts.Entered
import Lnrent.Daemon.Treasury
import Lnrent.Sweep.Liability
import Lnrent.Sweep.Sparing
import Lnrent.Sweep.Solvency
import Lnrent.Capacity.Budget
import Lnrent.Audit.Path
import Lnrent.Alerts.Blackout
import Lnrent.Store.Upgrade
import Lnrent.Bootstrap.PrivateDir
import Lnrent.Schedule.Timers
import Lnrent.Schedule.Lapse
import Lnrent.Daemon.Supervisor
import Lnrent.Supervision.Loop
import Lnrent.Supervision.Restarts
import Lnrent.Daemon.InboundDrain
import Lnrent.Inbound.Drain
import Lnrent.Inbound.Shutdown
