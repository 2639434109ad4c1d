import MessagingPlatform.Lib.Guarded
import MessagingPlatform.Lib.Translate
import MessagingPlatform.Gateway.Accept

/-! The transaction services for callbacks that write what they like. A callback is a program over the
statements of the `EntityManager` that it is given; what these do to the database is left open. The
envelopes of the consumer and of the gateway are those for their own callbacks. -/
namespace MessagingPlatform.Transactions
open Consumer (IdempotencyInput NewOutboxEvent OutboxEventInput)
open Consumer.OutboxTransactionService (IdempotentRunResult)
open Gateway (GatewayOutboxEventInput)
open Outbox (OutboxEvent)

structure Database (Tables : Type) where
  processedEvents : List IdempotencyInput
  outboxEvents : List OutboxEvent
  tables : Tables

/-- What a callback can do through its `EntityManager`. -/
structure Manager where
  Tables : Type
  Statement : Type
  Answer : Statement → Type
  effect : Statement → Database Tables → Database Tables
  /-- What `save` resolves to for an outbox row. -/
  Saved : Type

inductive Call (M : Manager) where
  | connect
  | startTransaction
  | saveProcessedEvent (row : IdempotencyInput)
  | statement (statement : M.Statement)
  | newDate
  | inject
  | randomUUID
  | saveOutboxEvent (row : NewOutboxEvent)
  | commitTransaction
  | rollbackTransaction
  | release

abbrev Reply (M : Manager) : Call M → Type
  | .statement statement => M.Answer statement
  | .newDate => Int
  | .inject => TraceCarrier
  | .randomUUID => String
  | .saveOutboxEvent _ => M.Saved
  | _ => Unit

abbrev Program (M : Manager) (Err Value : Type) := Async Err (Call M) (Reply M) Value

abbrev Work (M : Manager) (Err Value : Type) := Async Err M.Statement M.Answer Value

variable {M : Manager} {Err Value : Type}

def request (call : Call M) : Program M Err (Reply M call) := Async.call call

def Work.onManager (work : Work M Err Value) : Program M Err Value :=
  work.translate .statement (fun _ answer => answer)

/-- What the three envelopes share: a body on a query runner of its own. -/
def inTransaction (body : Program M Err Value) : Program M Err Value := do
  request .connect
  request .startTransaction
  Async.guarded body (request .rollbackTransaction) (request .release)

namespace OutboxTransactionService

def newOutboxEvent (event : OutboxEventInput) (eventId : String) (now : Int) (traceContext : TraceCarrier) :
    NewOutboxEvent where
  eventId := eventId
  eventType := event.eventType
  payload := event.payload
  correlationId := event.correlationId
  nextRetryAt := now
  maxAttempts := event.maxAttempts.getD 5
  traceContext := if traceContext.length > 0 then some traceContext else none

def insertOutboxEvent (now : Int) (traceContext : TraceCarrier) (event : OutboxEventInput) :
    Program M Err Unit := do
  let eventId ← request .randomUUID
  let _ ← request (.saveOutboxEvent (newOutboxEvent event eventId now traceContext))
  pure ()

def insertOutboxEvents (events : List OutboxEventInput) : Program M Err Unit := do
  let now ← request .newDate
  let traceContext ← request .inject
  events.forM (insertOutboxEvent now traceContext)

def write (work : Work M Err Value) (events : List OutboxEventInput) : Program M Err Value := do
  let result ← work.onManager
  insertOutboxEvents events
  request .commitTransaction
  pure result

def runWithOutboxEvents (work : Work M Err Value) (events : List OutboxEventInput) : Program M Err Value :=
  inTransaction (write work events)

/-- The insert into the ledger; `false` says that it found a duplicate and rolled back. -/
def insertLedgerRow (isUniqueViolation : Err → Bool) (idempotency : IdempotencyInput) : Program M Err Bool :=
  Async.tryCatch ((request (.saveProcessedEvent idempotency)).bind (fun _ => .resolve true))
    (fun error =>
      if isUniqueViolation error then (request .rollbackTransaction).bind (fun _ => .resolve false)
      else .reject error)

def writeOnce (isUniqueViolation : Err → Bool) (idempotency : IdempotencyInput) (work : Work M Err Value)
    (events : List OutboxEventInput) : Program M Err (IdempotentRunResult Value) := do
  let inserted ← insertLedgerRow isUniqueViolation idempotency
  if inserted then do
    let result ← write work events
    pure (.processed result)
  else pure .duplicate

def runIdempotentWithOutboxEvents (isUniqueViolation : Err → Bool) (idempotency : IdempotencyInput)
    (work : Work M Err Value) (events : List OutboxEventInput) : Program M Err (IdempotentRunResult Value) :=
  inTransaction (writeOnce isUniqueViolation idempotency work events)

end OutboxTransactionService

namespace GatewayOutboxTransactionService
open Gateway.GatewayOutboxTransactionService (newOutboxEvent)

def insertOutboxEvent (event : GatewayOutboxEventInput) : Program M Err M.Saved := do
  let now ← request .newDate
  let traceContext ← request .inject
  let eventId ← match event.eventId with
    | some eventId => pure eventId
    | none => request .randomUUID
  request (.saveOutboxEvent (newOutboxEvent event eventId now traceContext))

def write (work : Work M Err Value) (event : GatewayOutboxEventInput) : Program M Err M.Saved := do
  let _ ← work.onManager
  let row ← insertOutboxEvent event
  request .commitTransaction
  pure row

def runWithOutboxEvent (work : Work M Err Value) (event : GatewayOutboxEventInput) : Program M Err M.Saved :=
  inTransaction (write work event)

end GatewayOutboxTransactionService

section consumer

def messages : Manager where
  Tables := List Consumer.NewMessage
  Statement := Consumer.NewMessage
  Answer _ := Consumer.Message
  effect row database := { database with tables := database.tables ++ [row] }
  Saved := Unit

namespace Call

def consumer : Call messages → Consumer.Request
  | .connect => .connect
  | .startTransaction => .startTransaction
  | .saveProcessedEvent row => .saveProcessedEvent row
  | .statement row => .saveMessage row
  | .newDate => .newDate
  | .inject => .inject
  | .randomUUID => .randomUUID
  | .saveOutboxEvent row => .saveOutboxEvent row
  | .commitTransaction => .commitTransaction
  | .rollbackTransaction => .rollbackTransaction
  | .release => .release

def consumerReply : (call : Call messages) → Consumer.Reply call.consumer → Reply messages call
  | .connect, reply | .startTransaction, reply | .saveProcessedEvent _, reply | .commitTransaction, reply
  | .rollbackTransaction, reply | .release, reply => reply
  | .statement _, reply => reply
  | .newDate, reply => reply
  | .inject, reply => reply
  | .randomUUID, reply => reply
  | .saveOutboxEvent _, reply => reply

end Call

/-- A program of the envelopes as a program of the consumer. -/
abbrev onConsumer (program : Program messages Thrown Value) : Consumer.Program Value :=
  program.translate Call.consumer Call.consumerReply

theorem onConsumer_request_bind {Result : Type} (call : Call messages)
    (f : Reply messages call → Program messages Thrown Result) : onConsumer ((request call).bind f) =
      (Consumer.request call.consumer).bind (fun reply => onConsumer (f (call.consumerReply reply))) :=
  Async.translate_call_bind call f

theorem onConsumer_bind {Result : Type} (program : Program messages Thrown Value)
    (f : Value → Program messages Thrown Result) :
    onConsumer (program.bind f) = (onConsumer program).bind (fun value => onConsumer (f value)) :=
  Async.translate_bind program f

theorem insertOutboxEvents_onConsumer (events : List OutboxEventInput) :
    onConsumer (OutboxTransactionService.insertOutboxEvents events) =
      Consumer.OutboxTransactionService.insertOutboxEvents events := by
  unfold OutboxTransactionService.insertOutboxEvents Consumer.OutboxTransactionService.insertOutboxEvents
  simp only [Async.bind_eq]
  rw [onConsumer_request_bind]
  congr 1
  funext now
  rw [onConsumer_request_bind]
  congr 1
  funext traceContext
  refine (Async.translate_forM events _).trans ?_
  congr 1
  funext event
  unfold OutboxTransactionService.insertOutboxEvent Consumer.OutboxTransactionService.insertOutboxEvent
  simp only [Async.bind_eq]
  refine (onConsumer_request_bind _ _).trans ?_
  congr 1
  funext eventId
  refine (onConsumer_request_bind _ _).trans ?_
  exact Async.bind_resolve _

theorem write_onConsumer (work : Work messages Thrown Value) (events : List OutboxEventInput) :
    onConsumer (OutboxTransactionService.write work events) =
      (work.translate Consumer.Request.saveMessage (fun _ message => message)).bind (fun result =>
        (Consumer.OutboxTransactionService.insertOutboxEvents events).bind (fun _ =>
          (Consumer.request .commitTransaction).bind (fun _ => .resolve result))) := by
  unfold OutboxTransactionService.write
  simp only [Async.bind_eq,Async.pure_eq]
  rw [onConsumer_bind]
  have called : onConsumer work.onManager = work.translate Consumer.Request.saveMessage (fun _ message => message) :=
    Async.translate_translate work
  rw [called]
  congr 1
  funext result
  rw [onConsumer_bind,insertOutboxEvents_onConsumer]
  congr 1
  funext inserted
  exact onConsumer_request_bind _ _

theorem insertLedgerRow_onConsumer (idempotency : IdempotencyInput) :
    onConsumer (OutboxTransactionService.insertLedgerRow Consumer.isUniqueViolation idempotency) =
      Consumer.OutboxTransactionService.insertLedgerRow idempotency := by
  unfold OutboxTransactionService.insertLedgerRow Consumer.OutboxTransactionService.insertLedgerRow
  refine (Async.translate_tryCatch _ _).trans ?_
  congr 1
  · exact onConsumer_request_bind _ _
  · funext error
    by_cases duplicate : Consumer.isUniqueViolation error = true
    · rw [if_pos duplicate,if_pos duplicate]
      exact onConsumer_request_bind _ _
    · rw [if_neg duplicate,if_neg duplicate]
      rfl

theorem writeOnce_onConsumer (idempotency : IdempotencyInput) (work : Work messages Thrown Value)
    (events : List OutboxEventInput) :
    onConsumer (OutboxTransactionService.writeOnce Consumer.isUniqueViolation idempotency work events) =
      Consumer.OutboxTransactionService.runInTransaction idempotency
        (work.translate Consumer.Request.saveMessage (fun _ message => message)) events := by
  unfold OutboxTransactionService.writeOnce Consumer.OutboxTransactionService.runInTransaction
  simp only [Async.bind_eq,Async.pure_eq]
  rw [onConsumer_bind,insertLedgerRow_onConsumer]
  congr 1
  funext inserted
  cases inserted with
  | false => rfl
  | true =>
    refine (onConsumer_bind _ _).trans ?_
    rw [write_onConsumer,Async.bind_assoc]
    congr 1
    funext result
    rw [Async.bind_assoc]
    congr 1
    funext written
    rw [Async.bind_assoc]
    rfl

/-- The envelope of the consumer is the one for its own callbacks. -/
theorem runIdempotentWithOutboxEvents_onConsumer (idempotency : IdempotencyInput)
    (work : Work messages Thrown Value) (events : List OutboxEventInput) :
    onConsumer (OutboxTransactionService.runIdempotentWithOutboxEvents Consumer.isUniqueViolation idempotency
      work events) =
      Consumer.OutboxTransactionService.runIdempotentWithOutboxEvents idempotency
        (work.translate Consumer.Request.saveMessage (fun _ message => message)) events := by
  unfold OutboxTransactionService.runIdempotentWithOutboxEvents inTransaction
    Consumer.OutboxTransactionService.runIdempotentWithOutboxEvents Async.guarded
  simp only [Async.bind_eq]
  rw [onConsumer_request_bind]
  congr 1
  funext connected
  rw [onConsumer_request_bind]
  congr 1
  funext started
  refine (Async.translate_tryFinally _ _).trans ?_
  congr 1
  · refine (Async.translate_tryCatch _ _).trans ?_
    congr 1
    · exact writeOnce_onConsumer idempotency work events
    · funext error
      exact onConsumer_request_bind _ _
  · exact (Async.translate_call _).trans (Async.bind_resolve _)

end consumer

section gateway

/-- The callback of the gateway writes nothing. -/
def nothing : Manager where
  Tables := Unit
  Statement := Empty
  Answer := Empty.elim
  effect := Empty.elim
  Saved := OutboxEvent

namespace Call

def gateway : Call nothing → Gateway.Request
  -- the gateway has no ledger, and its envelope never asks for one
  | .connect | .saveProcessedEvent _ => .connect
  | .startTransaction => .startTransaction
  | .newDate => .newDate
  | .inject => .inject
  | .randomUUID => .randomUUID
  | .saveOutboxEvent row => .saveOutboxEvent row
  | .commitTransaction => .commitTransaction
  | .rollbackTransaction => .rollbackTransaction
  | .release => .release

def gatewayReply : (call : Call nothing) → Gateway.Reply call.gateway → Reply nothing call
  | .connect, reply | .saveProcessedEvent _, reply | .startTransaction, reply | .commitTransaction, reply
  | .rollbackTransaction, reply | .release, reply => reply
  | .newDate, reply => reply
  | .inject, reply => reply
  | .randomUUID, reply => reply
  | .saveOutboxEvent _, reply => reply

end Call

abbrev onGateway {Value : Type} (program : Program nothing Gateway.RequestFailure Value) : Gateway.Program Value :=
  program.translate Call.gateway Call.gatewayReply

theorem onGateway_request_bind {Result : Type} (call : Call nothing)
    (f : Reply nothing call → Program nothing Gateway.RequestFailure Result) : onGateway ((request call).bind f) =
      (Gateway.request call.gateway).bind (fun reply => onGateway (f (call.gatewayReply reply))) :=
  Async.translate_call_bind call f

theorem onGateway_bind {Value Result : Type} (program : Program nothing Gateway.RequestFailure Value)
    (f : Value → Program nothing Gateway.RequestFailure Result) :
    onGateway (program.bind f) = (onGateway program).bind (fun value => onGateway (f value)) :=
  Async.translate_bind program f

theorem onGateway_request (call : Call nothing) : onGateway (request call) =
    (Gateway.request call.gateway).bind (fun reply => .resolve (call.gatewayReply reply)) :=
  Async.translate_call call

theorem insertOutboxEvent_onGateway (event : GatewayOutboxEventInput) :
    onGateway (GatewayOutboxTransactionService.insertOutboxEvent event) =
      Gateway.GatewayOutboxTransactionService.saveOutboxEvent event := by
  unfold GatewayOutboxTransactionService.insertOutboxEvent Gateway.GatewayOutboxTransactionService.saveOutboxEvent
  simp only [Async.bind_eq]
  rw [onGateway_request_bind]
  congr 1
  funext now
  rw [onGateway_request_bind]
  congr 1
  funext traceContext
  have saved : ∀ eventId, onGateway (request (.saveOutboxEvent
      (Gateway.GatewayOutboxTransactionService.newOutboxEvent event eventId (Call.newDate.gatewayReply now)
        (Call.inject.gatewayReply traceContext)))) = Gateway.request (.saveOutboxEvent
        (Gateway.GatewayOutboxTransactionService.newOutboxEvent event eventId now traceContext)) := by
    intro eventId
    exact (onGateway_request _).trans (Async.bind_resolve _)
  cases event.eventId with
  | some eventId => exact saved eventId
  | none =>
    refine (onGateway_request_bind _ _).trans ?_
    congr 1
    funext eventId
    exact saved eventId

/-- `record` of the gateway is the envelope for a callback that resolves at once. -/
theorem record_onGateway (event : GatewayOutboxEventInput) :
    onGateway (GatewayOutboxTransactionService.runWithOutboxEvent (.resolve ()) event) =
      Gateway.GatewayOutboxTransactionService.record event := by
  unfold GatewayOutboxTransactionService.runWithOutboxEvent inTransaction Async.guarded
    Gateway.GatewayOutboxTransactionService.record Gateway.GatewayOutboxTransactionService.runWithOutboxEvent
  simp only [Async.bind_eq]
  rw [onGateway_request_bind]
  congr 1
  funext connected
  rw [onGateway_request_bind]
  congr 1
  funext started
  refine (Async.translate_tryFinally _ _).trans ?_
  congr 1
  · refine (Async.translate_tryCatch _ _).trans ?_
    congr 1
    · change onGateway ((GatewayOutboxTransactionService.insertOutboxEvent event).bind _) = _
      rw [onGateway_bind,insertOutboxEvent_onGateway]
      change _ = Async.bind _ _
      congr 1
      funext row
      exact onGateway_request_bind _ _
    · funext error
      exact onGateway_request_bind _ _
  · exact (onGateway_request _).trans (Async.bind_resolve _)

end gateway

end MessagingPlatform.Transactions
