import MessagingPlatform.Lib.Protocol
import MessagingPlatform.Consumer.Handler

/-! Which requests the parts of the handler make. What concerns the delivery itself, its retry copy
and its failure, is not among the requests of the processing of an event, except for the final ack. -/
namespace MessagingPlatform.Consumer
open Schema OutboxTransactionService

def Request.enveloped : Request → Bool
  | .connect | .startTransaction | .saveProcessedEvent _ | .saveMessage _ | .saveOutboxEvent _
  | .commitTransaction | .rollbackTransaction | .release | .newDate | .randomUUID | .inject => true
  | _ => false

def Request.bare : Request → Bool
  | .connect | .startTransaction | .commitTransaction | .rollbackTransaction | .release | .newDate
  | .randomUUID | .inject => true
  | _ => false

def Request.inserts : Request → Bool
  | .newDate | .inject | .randomUUID | .saveOutboxEvent _ => true
  | _ => false

def Request.republishes : Request → Bool
  | .getChannel | .inject | .publish _ _ | .waitForConfirms _ => true
  | _ => false

def Request.processes : Request → Bool
  | .connect | .startTransaction | .saveProcessedEvent _ | .saveMessage _ | .saveOutboxEvent _
  | .commitTransaction | .rollbackTransaction | .release | .newDate | .randomUUID | .inject
  | .clearAttempts _ | .ack | .count (.messagesProcessed _ _) => true
  | .lifecycle record => record.stage == .persisted
  | .recordAttempt _ | .getChannel | .publish _ _ | .waitForConfirms _ | .nack _
  | .count (.messagesFailed _ _) | .count (.retryCount _) => false

section envelope
variable {named : Request → Prop} {Value : Type} {idempotency : IdempotencyInput} {work : Program Value}
  {events : List OutboxEventInput}

theorem insertOutboxEvents_asks (now : named .newDate) (inject : named .inject) (uuid : named .randomUUID)
    (rows : ∀ event ∈ events, ∀ row : NewOutboxEvent, row.eventType = event.eventType →
      row.payload = event.payload → row.correlationId = event.correlationId → named (.saveOutboxEvent row)) :
    (insertOutboxEvents events).Asks named := by
  refine Async.Asks.bind (Async.Asks.call now) ?_
  intro instant
  refine Async.Asks.bind (Async.Asks.call inject) ?_
  intro traceContext
  apply Async.Asks.forM
  intro event member
  refine Async.Asks.bind (Async.Asks.call uuid) ?_
  intro eventId
  exact Async.Asks.call (rows event member _ rfl rfl rfl)

theorem insertOutboxEvents_inserts (events : List OutboxEventInput) :
    (insertOutboxEvents events).Asks (fun request => request.inserts = true) :=
  insertOutboxEvents_asks rfl rfl rfl (fun _ _ _ _ _ _ => rfl)

theorem insertLedgerRow_asks (rollback : named .rollbackTransaction) (row : named (.saveProcessedEvent idempotency)) :
    (insertLedgerRow idempotency).Asks named := by
  apply Async.Asks.tryCatch
  · apply Async.Asks.bind (Async.Asks.call row)
    intro saved
    exact trivial
  · intro error
    split
    next => exact Async.Asks.bind (Async.Asks.call rollback) (fun _ => trivial)
    next => exact trivial

/-- The envelope asks for its rows, for what its callback asks for, and for calls that carry no row. -/
theorem runIdempotentWithOutboxEvents_asks (bare : ∀ request : Request, request.bare = true → named request)
    (row : named (.saveProcessedEvent idempotency)) (works : work.Asks named)
    (rows : ∀ event ∈ events, ∀ row : NewOutboxEvent, row.eventType = event.eventType →
      row.payload = event.payload → row.correlationId = event.correlationId → named (.saveOutboxEvent row)) :
    (runIdempotentWithOutboxEvents idempotency work events).Asks named := by
  have transaction : (runInTransaction idempotency work events).Asks named := by
    apply (insertLedgerRow_asks (bare _ rfl) row).bind
    intro inserted
    cases inserted with
    | false => exact trivial
    | true =>
      apply works.bind
      intro result
      apply (insertOutboxEvents_asks (bare _ rfl) (bare _ rfl) (bare _ rfl) rows).bind
      intro done
      exact Async.Asks.bind (Async.Asks.call (bare _ rfl)) (fun _ => trivial)
  refine Async.Asks.bind (Async.Asks.call (bare _ rfl)) ?_
  intro connected
  refine Async.Asks.bind (Async.Asks.call (bare _ rfl)) ?_
  intro started
  refine Async.Asks.tryFinally ?_ (Async.Asks.call (bare _ rfl))
  apply transaction.tryCatch
  intro error
  exact Async.Asks.bind (Async.Asks.call (bare _ rfl)) (fun _ => trivial)

end envelope

abbrev Enveloped {Value : Type} (program : Program Value) : Prop :=
  program.Asks (fun request => request.enveloped = true)

namespace Enveloped

theorem request {request : Request} (enveloped : request.enveloped = true) : Enveloped (Consumer.request request) :=
  Async.Asks.call enveloped

theorem runIdempotentWithOutboxEvents {Value : Type} (idempotency : IdempotencyInput) {work : Program Value}
    (events : List OutboxEventInput) (works : Enveloped work) :
    Enveloped (runIdempotentWithOutboxEvents idempotency work events) := by
  refine runIdempotentWithOutboxEvents_asks ?_ rfl works (fun _ _ _ _ _ _ => rfl)
  intro request bare
  cases request <;> first | rfl | cases bare

end Enveloped

def Request.plain : Request → Bool
  | .saveProcessedEvent _ | .saveMessage _ | .saveOutboxEvent _ | .publish _ _ => false
  | _ => true

section retry
variable {named : Request → Prop} {engine : Engine}

/-- The publish asks for its one message, and for calls that carry none. -/
theorem publishToRetry_asks {payload : Body} {headers : Headers} {attemptNumber : JsNumber} (correlationId : String)
    (plain : ∀ request : Request, request.republishes = true → request.plain = true → named request)
    (copies : ∀ channel carrier, named (.publish channel
      (RetryPublisherService.publication engine payload headers attemptNumber carrier))) :
    (RetryPublisherService.publishToRetry engine payload headers attemptNumber correlationId).Asks named := by
  refine Async.Asks.bind (Async.Asks.call (plain _ rfl rfl)) ?_
  intro channel
  refine Async.Asks.bind (Async.Asks.call (plain _ rfl rfl)) ?_
  intro carrier
  refine Async.Asks.bind (Async.Asks.call (copies channel carrier)) ?_
  intro published
  cases published with
  | false => exact trivial
  | true => exact Async.Asks.call (plain _ rfl rfl)

theorem publishToRetry_republishes (engine : Engine) (payload : Body) (headers : Headers) (attemptNumber : JsNumber)
    (correlationId : String) :
    (RetryPublisherService.publishToRetry engine payload headers attemptNumber correlationId).Asks
      (fun request => request.republishes = true) :=
  publishToRetry_asks correlationId (fun _ republishes _ => republishes) (fun _ _ => rfl)

variable {delivery : Delivery}

theorem scheduleRetry_asks (error : Thrown) (now : Int) (correlationId : String)
    (plain : ∀ request : Request, request.plain = true → named request)
    (publishes : ∀ headers, (RetryPublisherService.publishToRetry engine delivery.content headers
      ((MessagingController.readRetryCount delivery.headers).add (.finite 1)) correlationId).Asks named) :
    (MessagingController.scheduleRetry engine delivery error now correlationId).Asks named := by
  refine Async.Asks.bind (Async.Asks.tryCatch ?_ ?_) ?_
  · exact (publishes _).bind (fun _ => trivial)
  · intro failed
    exact Async.Asks.bind (Async.Asks.call (plain _ rfl)) (fun _ => trivial)
  · intro scheduled
    cases scheduled with
    | false => exact trivial
    | true => exact Async.Asks.bind (Async.Asks.call (plain _ rfl)) (fun _ => Async.Asks.call (plain _ rfl))

theorem handleFailure_asks (eventTypeName correlationId : String) (durableAttemptCount : Int) (error : Thrown)
    (plain : ∀ request : Request, request.plain = true → named request)
    (publishes : ∀ headers, (RetryPublisherService.publishToRetry engine delivery.content headers
      ((MessagingController.readRetryCount delivery.headers).add (.finite 1)) correlationId).Asks named) :
    (MessagingController.handleFailure engine delivery eventTypeName correlationId durableAttemptCount
      error).Asks named := by
  refine Async.Asks.bind (Async.Asks.call (plain _ rfl)) ?_
  intro now
  refine Async.Asks.bind (Async.Asks.call (plain _ rfl)) ?_
  intro counted
  split
  next => exact scheduleRetry_asks error now correlationId plain publishes
  next => exact Async.Asks.call (plain _ rfl)

/-- The handler asks for what its processing and its retry copy ask for, and for plain calls. -/
theorem handleMessage_asks {zod : Library} (plain : ∀ request : Request, request.plain = true → named request)
    (publishes : ∀ headers correlationId, (RetryPublisherService.publishToRetry engine delivery.content headers
      ((MessagingController.readRetryCount delivery.headers).add (.finite 1)) correlationId).Asks named)
    (processes : ∀ event normalized eventTypeName,
      MessagingController.validate engine zod delivery.headers delivery.data = .ok event →
      MessagingController.normalize event = .valid normalized →
      (MessagingController.processEvent normalized eventTypeName).Asks named) :
    (MessagingController.handleMessage engine zod delivery).Asks named := by
  unfold MessagingController.handleMessage
  dsimp only
  split
  next errors _ =>
    refine Async.Asks.bind (Async.Asks.call (plain _ rfl)) ?_
    intro counted
    exact Async.Asks.bind (Async.Asks.call (plain _ rfl)) (fun _ => Async.Asks.call (plain _ rfl))
  next event validated =>
    split
    next issues _ => exact trivial
    next normalized upcast =>
      refine Async.Asks.bind (Async.Asks.bind (Async.Asks.call (plain _ rfl)) (fun _ => trivial)) ?_
      intro durableAttemptCount
      refine Async.Asks.bind (Async.Asks.call (plain _ rfl)) ?_
      intro received
      refine Async.Asks.bind (Async.Asks.call (plain _ rfl)) ?_
      intro announced
      apply Async.Asks.tryCatch (processes event normalized _ validated upcast)
      intro error
      exact handleFailure_asks _ _ durableAttemptCount error plain (fun headers => publishes headers _)

end retry

/-- The processing asks for what its envelope asks for, and for the bookkeeping after it. -/
theorem processEvent_asks {named : Request → Prop} {event : CreateMessageEventV2} {eventTypeName : String}
    (envelope : (MessagingService.handleMessageCreationIdempotent ⟨some event.payload.subject,some event.payload.content⟩
      event.eventId eventTypeName (some event.correlationId)).Asks named)
    (rest : ∀ request : Request, request.processes = true → request.enveloped = false → named request) :
    (MessagingController.processEvent event eventTypeName).Asks named := by
  apply envelope.bind
  intro outcome
  cases outcome with
  | duplicate =>
    refine Async.Asks.bind (Async.Asks.call (rest _ rfl rfl)) ?_
    intro counted
    refine Async.Asks.bind (Async.Asks.call (rest _ rfl rfl)) ?_
    intro cleared
    exact Async.Asks.call (rest _ rfl rfl)
  | processed message =>
    refine Async.Asks.bind (Async.Asks.call (rest _ rfl rfl)) ?_
    intro counted
    refine Async.Asks.bind (Async.Asks.call (rest _ rfl rfl)) ?_
    intro published
    refine Async.Asks.bind (Async.Asks.call (rest _ rfl rfl)) ?_
    intro cleared
    exact Async.Asks.call (rest _ rfl rfl)

abbrev Bookkeeping {Value : Type} (program : Program Value) : Prop :=
  program.Asks (fun request => request.processes = true)

namespace Bookkeeping

theorem of_enveloped {Value : Type} {program : Program Value} (enveloped : Enveloped program) :
    Bookkeeping program := by
  apply enveloped.mono
  intro request enveloped
  cases request <;> first | rfl | cases enveloped

theorem processEvent (event : CreateMessageEventV2) (eventTypeName : String) :
    Bookkeeping (MessagingController.processEvent event eventTypeName) :=
  processEvent_asks (of_enveloped (.runIdempotentWithOutboxEvents _ _ (.request rfl))) (fun _ processes _ => processes)

end Bookkeeping

end MessagingPlatform.Consumer
