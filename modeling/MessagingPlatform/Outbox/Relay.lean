import MessagingPlatform.Lib.Async
import MessagingPlatform.Outbox.Rows

/-! The relays and the admin services as promise programs. They differ in the table, a header
name and an error text, so both relays are one program with parameters. What
`dataSource.query` resolves to for an UPDATE is left to a driver. -/
namespace MessagingPlatform.Outbox

/-- The array that `dataSource.query` resolves to for an UPDATE … RETURNING, and the rows among its
elements; an element that is no row has none of the columns. -/
structure Driver where
  Elem : Type → Type
  result : {Row : Type} → List Row → List (Elem Row)
  row? : {Row : Type} → Elem Row → Option Row

namespace Driver

abbrev returningRows : Driver where
  Elem Row := Row
  result rows := rows
  row? := some

end Driver

inductive Request where
  | query (service : Service) (statement : Statement)
  | getChannel (service : Service)
  | inject (restored : Option TraceCarrier)
  | publish (channel : Nat) (publication : Publication)
  | waitForConfirms (channel : Nat)
  | newDate
  | fencedPublish (service : Service)
  | declare (declaration : Amqp.Declaration)

abbrev Reply (driver : Driver) : Request → Type
  | .query _ statement => List (driver.Elem statement.Row)
  | .getChannel _ => Nat
  | .inject _ => TraceCarrier
  | .publish _ _ => Bool
  | .waitForConfirms _ => Unit
  | .newDate => Int
  | .fencedPublish _ => Unit
  | .declare _ => Unit

abbrev Program (driver : Driver) (Value : Type) := Async Thrown Request (Reply driver) Value

def request {driver : Driver} (request : Request) : Program driver (Reply driver request) :=
  Async.call request

def query {driver : Driver} (service : Service) (statement : Statement) :
    Program driver (List (driver.Elem statement.Row)) :=
  Async.call (Request.query service statement)

/-- The body of `runRelayTick`. The elements of the claim's result are whatever the driver makes
of the claimed rows, so `publishOne` is a parameter here. -/
def relayTick {Err Req : Type} {Reply : Req → Type} {Elem : Type}
    (claimBatch : Async Err Req Reply (List Elem)) (publishOne : Elem → Async Err Req Reply Unit) :
    Async Err Req Reply Unit := do
  let rows ← Async.tryCatch (claimBatch.bind (fun rows => .resolve (some rows))) (fun _ => .resolve none)
  match rows with
  | none => pure ()
  | some rows => if rows.length = 0 then pure () else rows.forM publishOne

structure RelayService where
  service : Service
  idHeader : String
  rowName : String

def outboxRelayService : RelayService := ⟨.messaging,"x-outbox-id","outbox"⟩

def gatewayOutboxRelayService : RelayService := ⟨.gateway,"x-gateway-outbox-id","gateway outbox"⟩

def Service.relay : Service → RelayService
  | .messaging => outboxRelayService
  | .gateway => gatewayOutboxRelayService

@[simp] theorem Service.relay_service (service : Service) : service.relay.service = service := by
  cases service <;> rfl

namespace RelayService

def publication (relay : RelayService) (row : ClaimedRow) (carrier : TraceCarrier) : Publication :=
  let route := resolveOutboxRoute row.eventType
  { exchange := route.exchange
    routingKey := route.routingKey
    body := Body.stringify row.payload
    headers := injectTraceContext [
      ("x-event-type",.str row.eventType),
      ("x-correlation-id",.str (row.correlationId.getD "")),
      (relay.idHeader,.str (toString row.id)),
      ("x-event-id",.str (row.eventId.getD ""))] carrier }

def backPressure (relay : RelayService) (row : ClaimedRow) : Thrown :=
  .ofMessage s!"channel.publish() returned false (back-pressure) for {relay.rowName} id={row.id}"

variable (relay : RelayService) {driver : Driver}

def claimBatch (instanceId : String) (batchSize : Nat) : Program driver (List (driver.Elem ClaimedRow)) :=
  query relay.service (.claim instanceId batchSize)

def markSent (id : Nat) (expectedLockVersion : Int) : Program driver Bool := do
  let result ← query relay.service (.markSent id expectedLockVersion)
  pure (decide (result.length > 0))

/-- `newStatus` and `nextRetryAt` of `markFailedAttempt`. -/
def newStatusAndRetryAt : FailureOutcome → Program driver (OutboxStatus × Option Int)
  | .deadLetter _ => (request .newDate).bind (fun now => .resolve (.failed,some now))
  | .retry nextRetryAt _ => .resolve (.pending,nextRetryAt)

def markFailedAttempt (engine : Engine) (row : ClaimedRow) (err : Thrown) : Program driver Unit := do
  let now ← request .newDate
  let outcome := computeFailureOutcome engine row.attempts row.maxAttempts now
  let next ← newStatusAndRetryAt outcome
  let result ← query relay.service
    (.markFailed next.1 outcome.newAttempts err.message next.2 row.id row.lockVersion)
  if result.length > 0 then pure () else request (.fencedPublish relay.service)

def publishOne (engine : Engine) (row : ClaimedRow) : Program driver Unit :=
  Async.tryCatch (do
    let channel ← request (.getChannel relay.service)
    let carrier ← request (.inject row.traceContext)
    let published ← request (.publish channel (relay.publication row carrier))
    if published then do
      request (.waitForConfirms channel)
      let stillOwned ← relay.markSent row.id row.lockVersion
      if stillOwned then pure () else request (.fencedPublish relay.service)
    else .reject (relay.backPressure row))
  (relay.markFailedAttempt engine row)

/-- An element without columns has no payload to make a buffer of, and then its number of attempts is
`NaN`, which the UPDATE of `markFailedAttempt` is refused for. -/
def publishNoRow : Program driver Unit := do
  let channel ← Async.tryCatch ((request (.getChannel relay.service)).bind (fun channel => .resolve (some channel)))
    (fun _ => .resolve none)
  if channel.isSome then (request (.inject none)).bind (fun _ => .resolve ()) else pure ()
  let _ ← request .newDate
  .reject ⟨.error,"QueryFailedError","invalid input syntax for type integer: \"NaN\"",some "22P02",some "22P02"⟩

def publishElement (engine : Engine) (element : driver.Elem ClaimedRow) : Program driver Unit :=
  match driver.row? element with
  | some row => relay.publishOne engine row
  | none => relay.publishNoRow

def runRelayTick (publishOne : driver.Elem ClaimedRow → Program driver Unit) (instanceId : String)
    (batchSize : Nat) : Program driver Unit :=
  relayTick (relay.claimBatch instanceId batchSize) publishOne

def reapStaleLocks (ttlMs : Int) : Program driver Unit :=
  Async.tryCatch ((query relay.service (.reap ttlMs)).bind (fun _ => .resolve ()))
    (fun _ => .resolve ())

end RelayService

structure ReplayResult where
  replayed : Nat
  ids : List (Option Nat)
deriving DecidableEq

/-- An empty filter string is falsy, so it selects every failed row. -/
def eventTypeFilter (eventType : Option String) : Option String :=
  eventType.filter (fun type => type != "")

namespace OutboxAdminService

variable {driver : Driver}

def notFound (id : Nat) : Thrown :=
  ⟨.error,"NotFoundException",s!"Outbox event id={id} not found or is not in 'failed' status",none,none⟩

def replayById (id : Nat) : Program driver ReplayResult := do
  let rows ← query .messaging (.replayOne id)
  if rows.length = 0 then .reject (notFound id) else pure ⟨1,[some id]⟩

def replayAllFailed (eventType : Option String) : Program driver ReplayResult := do
  let rows ← query .messaging (.replayFailed (eventTypeFilter eventType))
  let ids := rows.map driver.row?
  pure ⟨ids.length,ids⟩

end OutboxAdminService

namespace GatewayOutboxAdminService

variable {driver : Driver}

def replayById (id : Nat) : Program driver Bool := do
  let result ← query .gateway (.replayOne id)
  pure (decide (result.length > 0))

def replayAllFailed (eventType : Option String) : Program driver Nat := do
  let result ← query .gateway (.replayFailed (eventTypeFilter eventType))
  pure result.length

end GatewayOutboxAdminService

def TopologyService.assertTopology {driver : Driver} : Program driver Unit :=
  assertTopologySteps.forM (fun declaration => request (.declare declaration))

end MessagingPlatform.Outbox
