import MessagingPlatform.Lib.Async
import MessagingPlatform.Contracts.Events
import MessagingPlatform.Contracts.Topology

/-! The consumer of the messaging service as promise programs: `MessagingController.handleMessage`
and the services it calls. Logging, timers and spans are left out; counters are kept. The envelope and
the rows that it writes are those of any type of texts, by default strings. -/
namespace MessagingPlatform.Consumer
open Schema

inductive ErrorClass where
  | validation
  | transient
  | permanent
deriving DecidableEq

def ErrorClass.name : ErrorClass → String
  | .validation => "VALIDATION"
  | .transient => "TRANSIENT"
  | .permanent => "PERMANENT"

def transientPgCodes : List String :=
  ["08000","08003","08006","08001","08004","57P03","53300","40001","40P01"]

def transientNodeCodes : List String :=
  ["ECONNREFUSED","ECONNRESET","ETIMEDOUT","ENOTFOUND","EPIPE","ENETUNREACH","EAI_AGAIN"]

/-- The constraint violations of a `QueryFailedError` are permanent like everything else that is
not recognised, so they have no branch here. -/
def classifyError (error : Thrown) : ErrorClass :=
  match error.kind with
  | .validation => .validation
  | .other => .permanent
  | .error =>
      if error.code.any (fun code => code ∈ transientPgCodes) then .transient
      else if error.driverCode.any (fun code => code ∈ transientPgCodes) then .transient
      else if error.code.any (fun code => code ∈ transientNodeCodes) then .transient
      else .permanent

def isUniqueViolation (error : Thrown) : Bool :=
  error.code == some "23505" || error.driverCode == some "23505"

inductive LifecycleStage where
  | received
  | validated
  | rejected
  | persisted
deriving DecidableEq

structure LifecycleRecord where
  stage : LifecycleStage
  eventType : String
  eventId : String
  correlationId : String
  errors : Option (List ValidationFailureDetail) := none

inductive ProcessedOutcome where
  | success
  | duplicate
deriving DecidableEq

inductive Metric where
  | messagesProcessed (eventType : String) (outcome : ProcessedOutcome)
  | messagesFailed (eventType : String) (errorClass : ErrorClass)
  | retryCount (attempt : String)

structure IdempotencyInput where
  eventId : String
  eventType : String
  correlationId : Option String
deriving DecidableEq

structure NewMessage (Text : Type := String) where
  title : Text
  content : Text
  sender : Text

structure Message (Text : Type := String) where
  id : Nat
  title : Text
  content : Text
  sender : Text

structure OutboxEventInput (Text : Type := String) where
  eventType : String
  payload : Json Text
  correlationId : Option String
  maxAttempts : Option Int := none

structure NewOutboxEvent (Text : Type := String) where
  eventId : String
  eventType : String
  payload : Json Text
  correlationId : Option String
  nextRetryAt : Int
  maxAttempts : Int
  traceContext : Option TraceCarrier

inductive Request (Text : Type := String) where
  | lifecycle (record : LifecycleRecord)
  | recordAttempt (eventId : String)
  | clearAttempts (eventId : String)
  | connect
  | startTransaction
  | saveProcessedEvent (row : IdempotencyInput)
  | saveMessage (row : NewMessage Text)
  | saveOutboxEvent (row : NewOutboxEvent Text)
  | commitTransaction
  | rollbackTransaction
  | release
  | newDate
  | randomUUID
  | inject
  | getChannel
  | publish (channel : Nat) (publication : Publication)
  | waitForConfirms (channel : Nat)
  | ack
  | nack (requeue : Bool)
  | count (metric : Metric)

abbrev Reply {Text : Type} : Request Text → Type
  | .recordAttempt _ => List Int
  | .saveMessage _ => Message Text
  | .newDate => Int
  | .randomUUID => String
  | .inject => TraceCarrier
  | .getChannel => Nat
  | .publish _ _ => Bool
  | _ => Unit

abbrev TextProgram (Text Value : Type) := Async Thrown (Request Text) Reply Value

abbrev Program (Value : Type) := TextProgram String Value

section texts
variable {Text : Type}

def request (request : Request Text) : TextProgram Text (Reply request) := Async.call request

namespace OutboxTransactionService

def insertOutboxEvent (now : Int) (traceContext : TraceCarrier) (event : OutboxEventInput Text) :
    TextProgram Text Unit := do
  let eventId ← request .randomUUID
  request (.saveOutboxEvent {
    eventId := eventId
    eventType := event.eventType
    payload := event.payload
    correlationId := event.correlationId
    nextRetryAt := now
    maxAttempts := event.maxAttempts.getD 5
    traceContext := if traceContext.length > 0 then some traceContext else none })

def insertOutboxEvents (events : List (OutboxEventInput Text)) : TextProgram Text Unit := do
  let now ← request .newDate
  let traceContext ← request .inject
  events.forM (insertOutboxEvent now traceContext)

inductive IdempotentRunResult (Value : Type) where
  | duplicate
  | processed (result : Value)

variable {Value : Type}

/-- The insert into the ledger; `false` says that it found a duplicate and rolled back. -/
def insertLedgerRow (idempotency : IdempotencyInput) : TextProgram Text Bool :=
  Async.tryCatch ((request (.saveProcessedEvent idempotency)).bind (fun _ => .resolve true))
    (fun error =>
      if isUniqueViolation error then (request .rollbackTransaction).bind (fun _ => .resolve false)
      else .reject error)

def runInTransaction (idempotency : IdempotencyInput) (work : TextProgram Text Value)
    (events : List (OutboxEventInput Text)) : TextProgram Text (IdempotentRunResult Value) := do
  let inserted ← insertLedgerRow idempotency
  if inserted then do
    let result ← work
    insertOutboxEvents events
    request .commitTransaction
    pure (.processed result)
  else pure .duplicate

def runIdempotentWithOutboxEvents (idempotency : IdempotencyInput) (work : TextProgram Text Value)
    (events : List (OutboxEventInput Text)) : TextProgram Text (IdempotentRunResult Value) := do
  request .connect
  request .startTransaction
  Async.tryFinally
    (Async.tryCatch (runInTransaction idempotency work events)
      (fun error => (request .rollbackTransaction).bind (fun _ => .reject error)))
    (request .release)

end OutboxTransactionService

open OutboxTransactionService (IdempotentRunResult runIdempotentWithOutboxEvents)

namespace MessagingService

structure MessageData (Text : Type := String) where
  subject : Option Text
  content : Option Text

variable [JsText Text]

def newMessage (data : MessageData Text) : NewMessage Text where
  title := data.subject.getD (JsText.ofString "Untitled")
  content := data.content.getD (JsText.ofString "No content")
  sender := JsText.ofString "system-user"

/-- The descriptor is built before the message has an id, so `messageId` is undefined in it. -/
def messagePersisted (data : MessageData Text) (correlationId : Option String) : OutboxEventInput Text where
  eventType := "MessagePersisted"
  payload := Json.ofFields [("messageId",none),
    ("title",some (.str (data.subject.getD (JsText.ofString "Untitled"))))]
  correlationId := correlationId

def handleMessageCreationIdempotent (data : MessageData Text) (eventId eventType : String)
    (correlationId : Option String) : TextProgram Text (IdempotentRunResult (Message Text)) :=
  runIdempotentWithOutboxEvents ⟨eventId,eventType,correlationId⟩
    (request (.saveMessage (newMessage data))) [messagePersisted data correlationId]

end MessagingService

namespace MessagingController

/-- Step 3: one internal shape for both versions. -/
def normalize [BEq Text] [JsText Text] : ContractEvent Text → Parsed (CreateMessageEventV2 Text)
  | .v2 event => .valid event
  | .v1 event => upcastCreateMessageEventV1ToV2 event

/-- Step 4: the try block. -/
def processEvent [JsText Text] (event : CreateMessageEventV2 Text) (eventTypeName : String) :
    TextProgram Text Unit := do
  let outcome ← MessagingService.handleMessageCreationIdempotent
    ⟨some event.payload.subject,some event.payload.content⟩ event.eventId eventTypeName
    (some event.correlationId)
  match outcome with
  | .duplicate => do
      request (.count (.messagesProcessed eventTypeName .duplicate))
      request (.clearAttempts event.eventId)
      request .ack
  | .processed _ => do
      request (.count (.messagesProcessed eventTypeName .success))
      request (.lifecycle ⟨.persisted,eventTypeName,event.eventId,event.correlationId,none⟩)
      request (.clearAttempts event.eventId)
      request .ack

end MessagingController

end texts

namespace RetryAttemptTrackerService

def recordAttempt (eventId : String) : Program Int := do
  let rows ← request (.recordAttempt eventId)
  pure (rows.head?.getD 1)

end RetryAttemptTrackerService

structure Delivery where
  content : Body
  headers : Headers
  data : Option Json

namespace RetryPublisherService

def backPressure (engine : Engine) (attemptNumber : JsNumber) (correlationId : String) : Thrown :=
  .ofMessage ("Retry publish back-pressured (local buffer full) for attempt=" ++
    s!"{engine.print attemptNumber}, correlationId={correlationId}")

def publication (engine : Engine) (payload : Body) (headers : Headers) (attemptNumber : JsNumber)
    (carrier : TraceCarrier) : Publication where
  exchange := Exchanges.main
  routingKey := RoutingKeys.retry
  body := payload
  headers := injectTraceContext headers carrier
  expiration := some (engine.print (retryDelayMs engine attemptNumber))

def publishToRetry (engine : Engine) (payload : Body) (headers : Headers) (attemptNumber : JsNumber)
    (correlationId : String) : Program Unit := do
  let channel ← request .getChannel
  let carrier ← request .inject
  let published ← request (.publish channel (publication engine payload headers attemptNumber carrier))
  if published then request (.waitForConfirms channel)
  else .reject (backPressure engine attemptNumber correlationId)

end RetryPublisherService

namespace MessagingController

def header? (headers : Headers) (name : String) : Option HeaderValue :=
  match headers.lookup name with
  | some (.json .null) => none
  | other => other

def readRetryCount (headers : Headers) : JsNumber :=
  match headers.lookup "x-retry-count" with
  | some (.num value) => value
  | _ => .finite 0

def readSchemaVersionHeader (headers : Headers) : Option HeaderValue :=
  headers.lookup schemaVersionHeader

def extractIdentifier (raw : Option Json) (name : String) : String :=
  match raw.bind (fun value => value.get? name) with
  | some (.str text) => text
  | _ => "unknown"

/-- Step 1: the contract version that the message claims. -/
def schemaVersion (engine : Engine) (headers : Headers) (data : Option Json) : SchemaVersion :=
  resolveSchemaVersion engine ⟨data,readSchemaVersionHeader headers,none⟩

/-- Steps 1 and 2: what the handler makes of a message before any effect. -/
def validate (engine : Engine) (zod : Library) (headers : Headers) (data : Option Json) :
    Except (List ValidationFailureDetail) ContractEvent :=
  validateEvent zod data (schemaVersion engine headers data)

def rejectInvalid (data : Option Json) (eventTypeName : String)
    (errors : List ValidationFailureDetail) : Program Unit := do
  request (.count (.messagesFailed eventTypeName .validation))
  request (.lifecycle {
    stage := .rejected
    eventType := eventTypeName
    eventId := extractIdentifier data "eventId"
    correlationId := extractIdentifier data "correlationId"
    errors := some errors })
  request .ack

def retryHeaders (headers : Headers) (nextAttempt : JsNumber) (errorMessage : String)
    (errorClass : ErrorClass) (now : Int) (correlationId : String) : Headers :=
  headers.spread [
    ("x-retry-count",.num nextAttempt),
    ("x-first-error",(header? headers "x-first-error").getD (.str errorMessage)),
    ("x-error-class",.str errorClass.name),
    ("x-failed-at",(header? headers "x-failed-at").getD (.str (toIsoString now))),
    ("x-correlation-id",.str correlationId)]

variable (engine : Engine)

/-- The retry copy is confirmed before the original is acked; a copy that cannot be scheduled
gives the original back to the broker. -/
def scheduleRetry (delivery : Delivery) (error : Thrown) (now : Int) (correlationId : String) :
    Program Unit := do
  let nextAttempt := (readRetryCount delivery.headers).add (.finite 1)
  let headers := retryHeaders delivery.headers nextAttempt error.message (classifyError error) now
    correlationId
  let scheduled ← Async.tryCatch
    ((RetryPublisherService.publishToRetry engine delivery.content headers nextAttempt
      correlationId).bind (fun _ => .resolve true))
    (fun _ => (request (.nack true)).bind (fun _ => .resolve false))
  if scheduled then do
    request .ack
    request (.count (.retryCount (engine.print nextAttempt)))
  else pure ()

/-- Step 5: the catch block. -/
def handleFailure (delivery : Delivery) (eventTypeName correlationId : String)
    (durableAttemptCount : Int) (error : Thrown) : Program Unit := do
  let now ← request .newDate
  request (.count (.messagesFailed eventTypeName (classifyError error)))
  if classifyError error = .transient ∧ durableAttemptCount < RetryConfig.maxAttempts then
    scheduleRetry engine delivery error now correlationId
  else request (.nack false)

def handleValid (delivery : Delivery) (eventTypeName : String) (event : CreateMessageEventV2) :
    Program Unit := do
  let durableAttemptCount ← RetryAttemptTrackerService.recordAttempt event.eventId
  request (.lifecycle ⟨.received,eventTypeName,event.eventId,event.correlationId,none⟩)
  request (.lifecycle ⟨.validated,eventTypeName,event.eventId,event.correlationId,none⟩)
  Async.tryCatch (processEvent event eventTypeName)
    (handleFailure engine delivery eventTypeName event.correlationId durableAttemptCount)

/-- The transport ignores what the handler resolves to, so the model leaves it out. -/
def handleMessage (zod : Library) (delivery : Delivery) : Program Unit :=
  let eventTypeName := (schemaVersion engine delivery.headers delivery.data).eventTypeName
  match validate engine zod delivery.headers delivery.data with
  | .error errors => rejectInvalid delivery.data eventTypeName errors
  | .ok event =>
      match normalize event with
      | .invalid issues _ => .reject ⟨.error,"ZodError",zod.errorText issues,none,none⟩
      | .valid event => handleValid engine delivery eventTypeName event

end MessagingController

def sampleEngine : Engine := ⟨fun _ => .nan,fun _ => ""⟩

def sampleDelivery : Delivery where
  content := .stringify (Json.ofFields [("pattern",some (.str CreateMessageEvent.nameV1)),
    ("data",some sampleEvent)])
  headers := []
  data := some sampleEvent

end MessagingPlatform.Consumer
