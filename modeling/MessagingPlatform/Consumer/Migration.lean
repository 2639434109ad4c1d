import MessagingPlatform.Contracts.Evolution
import MessagingPlatform.Consumer.Handler
import MessagingPlatform.Lib.Translate

/-! What becomes of a message when its producer moves from the first contract version to the second. The
handler makes the same requests for an event and for its upcast, and goes on with the replies in the same
way; only the name of the contract and the body of a retry copy are those of the new version. -/
namespace MessagingPlatform.Consumer
open Schema

def migratedName (eventType : String) : String :=
  if eventType = CreateMessageEvent.nameV1 then CreateMessageEvent.nameV2 else eventType

def Metric.migrated : Metric → Metric
  | .messagesProcessed eventType outcome => .messagesProcessed (migratedName eventType) outcome
  | .messagesFailed eventType errorClass => .messagesFailed (migratedName eventType) errorClass
  | .retryCount attempt => .retryCount attempt

namespace Request

def migrated (content : Body) : Request → Request
  | .lifecycle record => .lifecycle { record with eventType := migratedName record.eventType }
  | .saveProcessedEvent row => .saveProcessedEvent { row with eventType := migratedName row.eventType }
  | .count metric => .count metric.migrated
  | .publish channel publication => .publish channel { publication with body := content }
  | request => request

theorem reply_migrated (content : Body) (request : Request) :
    Reply (request.migrated content) = Reply request := by
  cases request <;> rfl

def back (content : Body) (request : Request) (reply : Reply (request.migrated content)) : Reply request :=
  reply_migrated content request ▸ reply

end Request

def migrate {A : Type} (content : Body) (program : Program A) : Program A :=
  program.translate (Request.migrated content) (Request.back content)

section programs
variable {A B : Type} {content : Body}

theorem migrate_resolve (value : A) : migrate content (.resolve value : Program A) = .resolve value := rfl

theorem migrate_reject (error : Thrown) : migrate content (.reject error : Program A) = .reject error := rfl

theorem migrate_bind (program : Program A) (f : A → Program B) :
    migrate content (program.bind f) = (migrate content program).bind (fun value => migrate content (f value)) :=
  Async.translate_bind program f

theorem migrate_tryCatch (program : Program A) (handler : Thrown → Program A) :
    migrate content (program.tryCatch handler) =
      (migrate content program).tryCatch (fun error => migrate content (handler error)) :=
  Async.translate_tryCatch program handler

theorem migrate_tryFinally (program : Program A) (cleanup : Program Unit) :
    migrate content (program.tryFinally cleanup) =
      (migrate content program).tryFinally (migrate content cleanup) :=
  Async.translate_tryFinally program cleanup

theorem migrate_call {asked : Request} {f : Reply asked → Program B}
    {g : Reply (asked.migrated content) → Program B}
    (continues : ∀ reply, migrate content (f (asked.back content reply)) = g reply) :
    migrate content ((request asked).bind f) = (request (asked.migrated content)).bind g := by
  have called := @Async.translate_call_bind _ _ _ _ _ _ (Request.migrated content) (Request.back content) asked f
  refine called.trans ?_
  exact congrArg (Async.bind _) (funext continues)

theorem migrate_last {asked : Request} {other : Program (Reply asked)}
    (same : (request (asked.migrated content)).bind (fun reply => .resolve (asked.back content reply)) = other) :
    migrate content (request asked) = other := (Async.translate_call asked).trans same

theorem migrate_loop {Item : Type} (items : List Item) {body other : Item → Program PUnit}
    (each : ∀ item, migrate content (body item) = other item) :
    migrate content (items.forM body) = items.forM other := by
  refine (Async.translate_forM items body).trans ?_
  exact congrArg items.forM (funext each)

end programs

namespace OutboxTransactionService

variable {Value : Type} {content : Body}

theorem insertOutboxEvents_migrated (events : List OutboxEventInput) :
    migrate content (insertOutboxEvents events) = insertOutboxEvents events := by
  unfold insertOutboxEvents
  simp only [Async.bind_eq]
  refine migrate_call ?_
  intro now
  refine migrate_call ?_
  intro traceContext
  refine migrate_loop events ?_
  intro event
  unfold insertOutboxEvent
  simp only [Async.bind_eq]
  refine migrate_call ?_
  intro eventId
  exact migrate_last (Async.bind_resolve _)

theorem insertLedgerRow_migrated (idempotency : IdempotencyInput) :
    migrate content (insertLedgerRow idempotency) =
      insertLedgerRow { idempotency with eventType := migratedName idempotency.eventType } := by
  unfold insertLedgerRow
  rw [migrate_tryCatch]
  refine congrArg₂ Async.tryCatch (migrate_call (fun _ => rfl)) (funext ?_)
  intro error
  split
  · exact migrate_call (fun _ => rfl)
  · rfl

theorem runInTransaction_migrated (idempotency : IdempotencyInput) {work : Program Value}
    (same : migrate content work = work) (events : List OutboxEventInput) :
    migrate content (runInTransaction idempotency work events) =
      runInTransaction { idempotency with eventType := migratedName idempotency.eventType } work events := by
  unfold runInTransaction
  simp only [Async.bind_eq]
  rw [migrate_bind,insertLedgerRow_migrated]
  refine congrArg (Async.bind _) (funext ?_)
  intro inserted
  cases inserted with
  | false => rfl
  | true =>
    change migrate content (work.bind _) = work.bind _
    rw [migrate_bind,same]
    refine congrArg (Async.bind _) (funext ?_)
    intro result
    rw [migrate_bind,insertOutboxEvents_migrated]
    refine congrArg (Async.bind _) (funext ?_)
    intro done
    exact migrate_call (fun _ => rfl)

theorem runIdempotentWithOutboxEvents_migrated (idempotency : IdempotencyInput) {work : Program Value}
    (same : migrate content work = work) (events : List OutboxEventInput) :
    migrate content (runIdempotentWithOutboxEvents idempotency work events) =
      runIdempotentWithOutboxEvents { idempotency with eventType := migratedName idempotency.eventType } work events := by
  unfold runIdempotentWithOutboxEvents
  simp only [Async.bind_eq]
  refine migrate_call ?_
  intro connected
  refine migrate_call ?_
  intro started
  rw [migrate_tryFinally,migrate_tryCatch,runInTransaction_migrated idempotency same]
  refine congrArg₂ Async.tryFinally (congrArg (Async.tryCatch _) (funext ?_)) (migrate_last (Async.bind_resolve _))
  intro error
  exact migrate_call (fun _ => rfl)

end OutboxTransactionService

section services
variable {content : Body}

theorem handleMessageCreationIdempotent_migrated (data : MessagingService.MessageData) (eventId eventType : String)
    (correlationId : Option String) :
    migrate content (MessagingService.handleMessageCreationIdempotent data eventId eventType correlationId) =
      MessagingService.handleMessageCreationIdempotent data eventId (migratedName eventType) correlationId :=
  OutboxTransactionService.runIdempotentWithOutboxEvents_migrated _ (migrate_last (Async.bind_resolve _)) _

theorem publishToRetry_migrated (engine : Engine) (payload : Body) (headers : Headers) (attemptNumber : JsNumber)
    (correlationId : String) :
    migrate content (RetryPublisherService.publishToRetry engine payload headers attemptNumber correlationId) =
      RetryPublisherService.publishToRetry engine content headers attemptNumber correlationId := by
  unfold RetryPublisherService.publishToRetry
  simp only [Async.bind_eq]
  refine migrate_call ?_
  intro channel
  refine migrate_call ?_
  intro carrier
  refine migrate_call ?_
  intro (published : Bool)
  cases published with
  | false => rfl
  | true => exact migrate_last (Async.bind_resolve _)

end services

namespace MessagingController

variable (engine : Engine) (delivery : Delivery) (content : Body) (data : Option Json)

theorem scheduleRetry_migrated (error : Thrown) (now : Int) (correlationId : String) :
    migrate content (scheduleRetry engine delivery error now correlationId) =
      scheduleRetry engine { delivery with content, data } error now correlationId := by
  unfold scheduleRetry
  simp only [Async.bind_eq]
  rw [migrate_bind,migrate_tryCatch,migrate_bind,publishToRetry_migrated]
  refine congrArg₂ Async.bind (congrArg (Async.tryCatch _) (funext ?_)) (funext ?_)
  · intro refused
    exact migrate_call (fun _ => rfl)
  · intro scheduled
    cases scheduled with
    | false => rfl
    | true =>
      refine migrate_call ?_
      intro done
      exact migrate_last (Async.bind_resolve _)

theorem handleFailure_migrated (eventTypeName correlationId : String) (durableAttemptCount : Int) (error : Thrown) :
    migrate content (handleFailure engine delivery eventTypeName correlationId durableAttemptCount error) =
      handleFailure engine { delivery with content, data } (migratedName eventTypeName) correlationId
        durableAttemptCount error := by
  unfold handleFailure
  simp only [Async.bind_eq]
  refine migrate_call ?_
  intro now
  refine migrate_call ?_
  intro counted
  by_cases retryable : classifyError error = .transient ∧ durableAttemptCount < RetryConfig.maxAttempts
  · rw [if_pos retryable,if_pos retryable]
    exact scheduleRetry_migrated engine delivery content data error now correlationId
  · rw [if_neg retryable,if_neg retryable]
    exact migrate_last (Async.bind_resolve _)

theorem processEvent_migrated (event : CreateMessageEventV2) (eventTypeName : String) :
    migrate content (processEvent event eventTypeName) = processEvent event (migratedName eventTypeName) := by
  unfold processEvent
  simp only [Async.bind_eq]
  rw [migrate_bind,handleMessageCreationIdempotent_migrated]
  refine congrArg (Async.bind _) (funext ?_)
  intro outcome
  cases outcome with
  | duplicate =>
    refine migrate_call ?_
    intro counted
    refine migrate_call ?_
    intro cleared
    exact migrate_last (Async.bind_resolve _)
  | processed message =>
    refine migrate_call ?_
    intro counted
    refine migrate_call ?_
    intro told
    refine migrate_call ?_
    intro cleared
    exact migrate_last (Async.bind_resolve _)

theorem handleValid_migrated (eventTypeName : String) (event : CreateMessageEventV2) :
    migrate content (handleValid engine delivery eventTypeName event) =
      handleValid engine { delivery with content, data } (migratedName eventTypeName) event := by
  unfold handleValid RetryAttemptTrackerService.recordAttempt
  simp only [Async.bind_eq,Async.bind_assoc]
  refine migrate_call ?_
  intro rows
  refine migrate_call ?_
  intro received
  refine migrate_call ?_
  intro validated
  rw [migrate_tryCatch,processEvent_migrated]
  exact congrArg (Async.tryCatch _) (funext (handleFailure_migrated engine delivery content data _ _ _))

/-- The envelope of an upcast event names its contract version, whatever the headers claim. -/
theorem schemaVersion_upcast (headers : Headers) (event : CreateMessageEventV2) :
    schemaVersion engine headers (some (ContractEvent.v2 event).toJson) = .v2 := by
  have read : (ContractEvent.v2 event).toJson.get? "schemaVersion" = some (.str "2") := rfl
  unfold schemaVersion resolveSchemaVersion readEnvelope
  simp only [Option.bind_some,read]
  rfl

end MessagingController

/-- A v1 message and the v2 message that its upcast makes are handled alike, with the same headers, whatever
is answered: the programs are the same but for the name of the contract and the body of a retry copy. -/
theorem upcast_preserves_handling (engine : Engine) (zod : Library) (delivery : Delivery) (v1 : CreateMessageEventV1)
    (accepted : MessagingController.validate engine zod delivery.headers delivery.data = .ok (.v1 v1)) :
    ∃ v2, MessagingController.normalize (.v1 v1) = .valid v2 ∧ ∀ content,
      migrate content (MessagingController.handleMessage engine zod delivery) =
        MessagingController.handleMessage engine zod
          { delivery with content, data := some (ContractEvent.v2 v2).toJson } := by
  obtain ⟨version,valid⟩ : MessagingController.schemaVersion engine delivery.headers delivery.data = .v1 ∧
      createMessageEventV1Schema zod delivery.data = .valid v1 := by
    unfold MessagingController.validate at accepted
    cases version : MessagingController.schemaVersion engine delivery.headers delivery.data with
    | v1 =>
      rw [version] at accepted
      obtain ⟨other,same,valid⟩ := validateEvent_v1.mp accepted
      exact ⟨rfl,ContractEvent.v1.inj same ▸ valid⟩
    | v2 =>
      rw [version] at accepted
      obtain ⟨other,same,_⟩ := validateEvent_v2.mp accepted
      cases same
  obtain ⟨envelope,_,_,_,_,_,read⟩ := v1Event_valid.mp valid
  have formed := (v1Payload_valid.mp read).1
  have normalized : MessagingController.normalize (.v1 v1) = .valid _ := upcast_valid valid
  refine ⟨_,normalized,?_⟩
  intro content
  generalize event : (⟨v1.eventId,v1.correlationId,v1.timestamp,v1.source,v1.trace,
    ⟨v1.payload.subject,v1.payload.content,v1.payload.recipient,.normal,[]⟩⟩ : CreateMessageEventV2) = v2 at normalized ⊢
  have again : createMessageEventV2Schema zod (some (ContractEvent.v2 v2).toJson) = .valid v2 := by
    subst event
    exact v2Event_again envelope ⟨formed.subject,formed.content,formed.recipient,some (.obj []),rfl⟩ rfl
  have resolved := MessagingController.schemaVersion_upcast engine delivery.headers v2
  have accepts : MessagingController.validate engine zod delivery.headers (some (ContractEvent.v2 v2).toJson) =
      .ok (.v2 v2) := by
    unfold MessagingController.validate
    rw [resolved]
    exact validateEvent_v2.mpr ⟨v2,rfl,again⟩
  have before : MessagingController.handleMessage engine zod delivery =
      MessagingController.handleValid engine delivery CreateMessageEvent.nameV1 v2 := by
    simp only [MessagingController.handleMessage,accepted,normalized,version]
    rfl
  have after : MessagingController.handleMessage engine zod
        { delivery with content, data := some (ContractEvent.v2 v2).toJson } =
      MessagingController.handleValid engine { delivery with content, data := some (ContractEvent.v2 v2).toJson }
        CreateMessageEvent.nameV2 v2 := by
    simp only [MessagingController.handleMessage,accepts,resolved]
    rfl
  rw [before,after]
  exact MessagingController.handleValid_migrated engine delivery content _ CreateMessageEvent.nameV1 v2

/-- The first version of the test message and its upcast. -/
theorem sample_handled_alike : ∃ v2, ∀ content,
    migrate content (MessagingController.handleMessage sampleEngine sampleLibrary sampleDelivery) =
      MessagingController.handleMessage sampleEngine sampleLibrary
        { sampleDelivery with content, data := some (ContractEvent.v2 v2).toJson } := by
  have accepted : MessagingController.validate sampleEngine sampleLibrary sampleDelivery.headers sampleDelivery.data =
      .ok (.v1 ⟨"11111111-1111-4111-8111-111111111111","22222222-2222-4222-8222-222222222222",
        "2026-01-01T00:00:00.000Z",.gateway,[.gateway],none,⟨"System test message","Hello RabbitMQ!",none⟩⟩) := by
    rfl
  obtain ⟨v2,_,alike⟩ := upcast_preserves_handling sampleEngine sampleLibrary sampleDelivery _ accepted
  exact ⟨v2,alike⟩

end MessagingPlatform.Consumer
