import SpotSettlement.AssetPair
import SpotSettlement.AssetTotals
import SpotSettlement.Binary64.Shortest
import SpotSettlement.Broker.Basic
import SpotSettlement.Broker.Error
import SpotSettlement.Code
import SpotSettlement.Connector.Health
import SpotSettlement.Connector.Replay
import SpotSettlement.Decimal.Arithmetic
import SpotSettlement.Decimal.Basic
import SpotSettlement.Decimal.Text
import SpotSettlement.Digest.Sha256
import SpotSettlement.Engine.Basic
import SpotSettlement.Engine.Dispatch
import SpotSettlement.Engine.Loop
import SpotSettlement.Engine.Placement
import SpotSettlement.Engine.Reconciliation
import SpotSettlement.Engine.Replay
import SpotSettlement.Engine.Stream
import SpotSettlement.Engine.Submission
import SpotSettlement.Exchange.Client
import SpotSettlement.Exchange.Deployment
import SpotSettlement.Exchange.Error
import SpotSettlement.Exchange.Fault
import SpotSettlement.Exchange.Network
import SpotSettlement.Exchange.Order
import SpotSettlement.Exchange.Response
import SpotSettlement.Execution.Basic
import SpotSettlement.Execution.Economics
import SpotSettlement.Execution.Report
import SpotSettlement.Failure
import SpotSettlement.Inspection.Basic
import SpotSettlement.Inspection.Engine
import SpotSettlement.Inspection.Exchange
import SpotSettlement.Inspection.Execution
import SpotSettlement.Inspection.Order
import SpotSettlement.Inspection.Rows
import SpotSettlement.Inspection.Settings
import SpotSettlement.InstrumentCatalog
import SpotSettlement.Json.Basic
import SpotSettlement.Json.Excerpt
import SpotSettlement.Json.Number
import SpotSettlement.Json.Printer
import SpotSettlement.Json.Reader
import SpotSettlement.Ledger.Basic
import SpotSettlement.Ledger.Error
import SpotSettlement.Operations.MediaType
import SpotSettlement.Operations.ReplayWish
import SpotSettlement.Operations.Route
import SpotSettlement.Operations.Service
import SpotSettlement.Order.Basic
import SpotSettlement.Order.Command
import SpotSettlement.Order.Error
import SpotSettlement.Order.Transition
import SpotSettlement.Order.Vocabulary
import SpotSettlement.Outbox.Payload
import SpotSettlement.Outbox.Relay
import SpotSettlement.Outbox.Row
import SpotSettlement.Outbox.Schedule
import SpotSettlement.Outbox.Vocabulary
import SpotSettlement.Power
import SpotSettlement.Proofs.Broker.Groups
import SpotSettlement.Proofs.Broker.Receiving
import SpotSettlement.Proofs.Connector.Health
import SpotSettlement.Proofs.Decimal.Opposites
import SpotSettlement.Proofs.Decimal.Text
import SpotSettlement.Proofs.Decimal.Value
import SpotSettlement.Proofs.Delivery.Cycles
import SpotSettlement.Proofs.Delivery.Events
import SpotSettlement.Proofs.Delivery.Failures
import SpotSettlement.Proofs.Delivery.Finality
import SpotSettlement.Proofs.Delivery.InOrder
import SpotSettlement.Proofs.Delivery.Messages
import SpotSettlement.Proofs.Delivery.NewOrders
import SpotSettlement.Proofs.Delivery.Queue
import SpotSettlement.Proofs.Delivery.Relay
import SpotSettlement.Proofs.Delivery.RelayStates
import SpotSettlement.Proofs.Delivery.Rows
import SpotSettlement.Proofs.Engine.Activities
import SpotSettlement.Proofs.Engine.Atomicity
import SpotSettlement.Proofs.Engine.Cancelling
import SpotSettlement.Proofs.Engine.CatchUp
import SpotSettlement.Proofs.Engine.CatchUpAgain
import SpotSettlement.Proofs.Engine.Hearing
import SpotSettlement.Proofs.Engine.Placements
import SpotSettlement.Proofs.Engine.Recovery
import SpotSettlement.Proofs.Engine.Replays
import SpotSettlement.Proofs.Engine.Routines
import SpotSettlement.Proofs.Engine.Sessions
import SpotSettlement.Proofs.Engine.StreamTurns
import SpotSettlement.Proofs.Engine.Submission
import SpotSettlement.Proofs.Engine.Verdicts
import SpotSettlement.Proofs.Exchange.SignedRequests
import SpotSettlement.Proofs.Instruments.Symbols
import SpotSettlement.Proofs.Json.Nesting
import SpotSettlement.Proofs.Json.Tokens
import SpotSettlement.Proofs.Ledger.Booking
import SpotSettlement.Proofs.Ledger.DoubleEntry
import SpotSettlement.Proofs.Ledger.NetMovements
import SpotSettlement.Proofs.Ledger.Verification
import SpotSettlement.Proofs.Order.Changes
import SpotSettlement.Proofs.Order.Progress
import SpotSettlement.Proofs.Outbox.Coherence
import SpotSettlement.Proofs.Outbox.Delays
import SpotSettlement.Proofs.Outbox.Envelopes
import SpotSettlement.Proofs.Outbox.Payloads
import SpotSettlement.Proofs.Outbox.RoundTrip
import SpotSettlement.Proofs.Retry.Attempts
import SpotSettlement.Proofs.Settings.Interpolation
import SpotSettlement.Proofs.Settlement.Acknowledgement
import SpotSettlement.Proofs.Settlement.Announcement
import SpotSettlement.Proofs.Settlement.Attribution
import SpotSettlement.Proofs.Settlement.AuditTrail
import SpotSettlement.Proofs.Settlement.Awaiting
import SpotSettlement.Proofs.Settlement.BalanceWrites
import SpotSettlement.Proofs.Settlement.Channels
import SpotSettlement.Proofs.Settlement.Closing
import SpotSettlement.Proofs.Settlement.Commuting
import SpotSettlement.Proofs.Settlement.Confinement
import SpotSettlement.Proofs.Settlement.Conservation
import SpotSettlement.Proofs.Settlement.Coverage
import SpotSettlement.Proofs.Settlement.CoveredFills
import SpotSettlement.Proofs.Settlement.Creation
import SpotSettlement.Proofs.Settlement.Deduplication
import SpotSettlement.Proofs.Settlement.ExactFunds
import SpotSettlement.Proofs.Settlement.FillEffects
import SpotSettlement.Proofs.Settlement.Fills
import SpotSettlement.Proofs.Settlement.Funds
import SpotSettlement.Proofs.Settlement.Holdings
import SpotSettlement.Proofs.Settlement.Identities
import SpotSettlement.Proofs.Settlement.InLimitFills
import SpotSettlement.Proofs.Settlement.Lifecycle
import SpotSettlement.Proofs.Settlement.Moments
import SpotSettlement.Proofs.Settlement.Names
import SpotSettlement.Proofs.Settlement.Numbering
import SpotSettlement.Proofs.Settlement.Outbox
import SpotSettlement.Proofs.Settlement.Progress
import SpotSettlement.Proofs.Settlement.Projection
import SpotSettlement.Proofs.Settlement.Redelivery
import SpotSettlement.Proofs.Settlement.Refusals
import SpotSettlement.Proofs.Settlement.Reservations
import SpotSettlement.Proofs.Settlement.Runs
import SpotSettlement.Proofs.Settlement.Steps
import SpotSettlement.Proofs.Settlement.Submissions
import SpotSettlement.Proofs.Store.Identifiers
import SpotSettlement.Proofs.Store.Orders
import SpotSettlement.Proofs.Store.Outbox
import SpotSettlement.Proofs.Store.ReplayRuns
import SpotSettlement.Proofs.Store.Replays
import SpotSettlement.Proofs.Store.Wallets
import SpotSettlement.Proofs.Stream.Frames
import SpotSettlement.Proofs.Text.Blank
import SpotSettlement.Proofs.Text.Digits
import SpotSettlement.Proofs.Text.FormFields
import SpotSettlement.Proofs.Text.Uppercase
import SpotSettlement.Proofs.Time.Calendar
import SpotSettlement.Proofs.Time.Text
import SpotSettlement.Proofs.Wallet.Draws
import SpotSettlement.Proofs.Wallet.InPlace
import SpotSettlement.Proofs.Wallet.Moments
import SpotSettlement.Proofs.Wallet.Movements
import SpotSettlement.Proofs.Work
import SpotSettlement.Rehearsal.Basic
import SpotSettlement.Rehearsal.Labels
import SpotSettlement.Retry.Backoff
import SpotSettlement.Script.Fields
import SpotSettlement.Script.Values
import SpotSettlement.Settings.Basic
import SpotSettlement.Settings.Check
import SpotSettlement.Settings.Document
import SpotSettlement.Settings.Placeholder
import SpotSettlement.Settings.Printer
import SpotSettlement.Settings.Reader
import SpotSettlement.Settings.Tuning
import SpotSettlement.Settings.Word
import SpotSettlement.Settlement.Announcement
import SpotSettlement.Settlement.Funds
import SpotSettlement.Settlement.Ingestion
import SpotSettlement.Settlement.Lifecycle
import SpotSettlement.SocketAddress
import SpotSettlement.Store.Basic
import SpotSettlement.Store.Connectors
import SpotSettlement.Store.Error
import SpotSettlement.Store.Orders
import SpotSettlement.Store.Records
import SpotSettlement.Store.Wallets
import SpotSettlement.Stream.Codec
import SpotSettlement.Stream.Event
import SpotSettlement.Text.Blank
import SpotSettlement.Text.CaseTable
import SpotSettlement.Text.Digits
import SpotSettlement.Text.PercentEncoding
import SpotSettlement.Text.Uppercase
import SpotSettlement.Time.Calendar
import SpotSettlement.Time.Instant
import SpotSettlement.Wallet.Balance
import SpotSettlement.Wallet.Delta
import SpotSettlement.Wallet.Error
import SpotSettlement.Wallet.Reservation
