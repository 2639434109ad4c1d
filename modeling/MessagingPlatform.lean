import MessagingPlatform.Lib.Machine
import MessagingPlatform.Lib.Async
import MessagingPlatform.Lib.Protocol
import MessagingPlatform.Lib.Pool
import MessagingPlatform.Lib.Table
import MessagingPlatform.Lib.Js
import MessagingPlatform.Lib.Amqp
import MessagingPlatform.Contracts.Topology
import MessagingPlatform.Outbox.Rows
import MessagingPlatform.Contracts.Headers
import MessagingPlatform.Outbox.Relay
import MessagingPlatform.Outbox.System
import MessagingPlatform.Outbox.Settlement
import MessagingPlatform.Outbox.Steps
import MessagingPlatform.Outbox.Fencing
import MessagingPlatform.Outbox.Exclusivity
import MessagingPlatform.Outbox.Confirmed
import MessagingPlatform.Outbox.Placement
import MessagingPlatform.Outbox.Absorbing
import MessagingPlatform.Outbox.DriverContract
import MessagingPlatform.Contracts.Events
import MessagingPlatform.Consumer.Transport
import MessagingPlatform.Gateway.Framing
import MessagingPlatform.Consumer.Conclusion
import MessagingPlatform.Consumer.System
import MessagingPlatform.Consumer.Discipline
import MessagingPlatform.Consumer.Steps
import MessagingPlatform.Consumer.ExactlyOnce
import MessagingPlatform.Consumer.NoLoss
import MessagingPlatform.Contracts.RoundTrip
import MessagingPlatform.Consumer.Settled
import MessagingPlatform.Consumer.Dispatch
import MessagingPlatform.Gateway.Agreement
import MessagingPlatform.Outbox.Reaped
import MessagingPlatform.Broker.Startup
import MessagingPlatform.Lib.Ghost
import MessagingPlatform.Outbox.Orphans
import MessagingPlatform.Broker.Isolation
import MessagingPlatform.Gateway.Accept
import MessagingPlatform.Broker.Reconnection
import MessagingPlatform.Consumer.Attempts
import MessagingPlatform.Lib.Counter
import MessagingPlatform.Consumer.Budget
import MessagingPlatform.Contracts.Backoff
import MessagingPlatform.Outbox.Journal
import MessagingPlatform.Outbox.WellFormed
import MessagingPlatform.Outbox.RunLaw
import MessagingPlatform.Outbox.Batch
import MessagingPlatform.Consumer.Requests
import MessagingPlatform.Broker.BackPressure
import MessagingPlatform.Broker.RetryDelays
import MessagingPlatform.Consumer.Failures
import MessagingPlatform.Consumer.Hops
import MessagingPlatform.Consumer.Traces
import MessagingPlatform.Consumer.DeadLetters
import MessagingPlatform.Lib.Guarded
import MessagingPlatform.Lib.Translate
import MessagingPlatform.Transactions.Envelopes
import MessagingPlatform.Transactions.Sessions
import MessagingPlatform.Transactions.Atomicity
import MessagingPlatform.Transactions.Runs
import MessagingPlatform.Transactions.ErrorIdentity
import MessagingPlatform.Contracts.Evolution
import MessagingPlatform.Lib.Text
import MessagingPlatform.Contracts.Versions
import MessagingPlatform.Lib.Dates
import MessagingPlatform.Lib.Paging
import MessagingPlatform.Messages.Pagination
import MessagingPlatform.Idempotency.Ledger
import MessagingPlatform.Idempotency.Winner
import MessagingPlatform.Idempotency.Independence
import MessagingPlatform.Outbox.Replay
import MessagingPlatform.Broker.Expiration
import MessagingPlatform.Consumer.Storable
import MessagingPlatform.Transactions.Release
import MessagingPlatform.Consumer.Fields
import MessagingPlatform.Consumer.Classification
import MessagingPlatform.Health.Probes
import MessagingPlatform.Lifecycle.Subscriber
import MessagingPlatform.Lifecycle.Callbacks
import MessagingPlatform.Lifecycle.Waits
import MessagingPlatform.Lifecycle.Exactness
import MessagingPlatform.Consumer.Stages
import MessagingPlatform.Consumer.Observed
import MessagingPlatform.Lifecycle.Publisher
import MessagingPlatform.Lifecycle.Emissions
import MessagingPlatform.Lifecycle.Chain
import MessagingPlatform.Lib.Agreement
import MessagingPlatform.Outbox.Requests
import MessagingPlatform.Outbox.LockColumns
import MessagingPlatform.Lib.Matching
import MessagingPlatform.Outbox.Publications
import MessagingPlatform.Consumer.Migration
import MessagingPlatform.Platform.Announcements
import MessagingPlatform.Outbox.Drain
import MessagingPlatform.Outbox.Failed
import MessagingPlatform.Outbox.Operators
import MessagingPlatform.Lib.IndexedStore
import MessagingPlatform.Gateway.System
import MessagingPlatform.Gateway.Concurrent
import MessagingPlatform.Platform.Commands
import MessagingPlatform.Broker.Connections
