import MessagingPlatform.Lib.Protocol
import MessagingPlatform.Consumer.System

/-! What every delivery respects, whatever the answers are: the three inserts come in their
order before the commit, only the duplicate branch counts a duplicate, and a delivery is acked
only when its event is processed, its retry copy is confirmed, or it is no valid event. -/
namespace MessagingPlatform.Consumer
open Schema OutboxTransactionService

/-- How far the transaction of a delivery has come. A transaction one of whose statements has
rejected is broken. -/
inductive Phase where
  | idle
  | opened
  | recorded
  | stored
  | ready
  | committed
  | duplicate
  | broken
deriving DecidableEq

structure View where
  tag : Nat
  body : Body
  eventId : Option String
  phase : Phase
  /-- The retry copy that was written last. -/
  written : Option (Nat × Publication)
  /-- That copy is confirmed. -/
  scheduled : Bool

namespace View

def start (tag : Nat) (body : Body) (eventId : Option String) : View :=
  ⟨tag,body,eventId,.idle,none,false⟩

def Of (settings : Settings) (delivery : Delivery) (view : View) : Prop :=
  view.body = delivery.content ∧ view.eventId = eventIdOf settings delivery.content delivery.headers

def advance (view : View) {Value : Type} (phase : Phase) : Except Thrown Value → View
  | .ok _ => { view with phase }
  | .error _ => { view with phase := .broken }

def observe (view : View) : (request : Request) → Except Thrown (Reply request) → View
  | .startTransaction, outcome => view.advance .opened outcome
  | .saveProcessedEvent _, .error error =>
      { view with phase := if isUniqueViolation error then .duplicate else .broken }
  | .saveProcessedEvent _, .ok _ => { view with phase := .recorded }
  | .saveMessage _, outcome => view.advance .stored outcome
  | .saveOutboxEvent _, outcome => view.advance .ready outcome
  | .commitTransaction, outcome => view.advance .committed outcome
  | .publish channel publication, .ok _ =>
      { view with written := some (channel,publication), scheduled := false }
  | .publish _ _, .error _ => { view with written := none, scheduled := false }
  | .waitForConfirms channel, .ok _ =>
      { view with scheduled := view.written.any (fun written => written.1 == channel) }
  | _, _ => view

/-- The event needs no delivery any more, or another copy of it is on its way. -/
def Safe (view : View) : Prop :=
  view.eventId = none ∨ view.phase = .committed ∨ view.phase = .duplicate ∨ view.scheduled = true

end View

structure Retries (settings : Settings) (view : View) (publication : Publication) : Prop where
  exchange : publication.exchange = Exchanges.main
  routingKey : publication.routingKey = RoutingKeys.retry
  body : publication.body = view.body
  event : eventIdOf settings publication.body publication.headers = view.eventId

def honest : (request : Request) → Except Thrown (Reply request) → Prop
  | .inject, .ok carrier => ∀ entry ∈ (carrier : TraceCarrier), entry.1 ∈ traceHeaders
  | _, _ => True

def discipline (settings : Settings) : Protocol View Thrown Request Reply where
  allows view
    | .startTransaction => view.phase = .idle
    | .saveProcessedEvent row => view.phase = .opened ∧ view.eventId = some row.eventId
    | .saveMessage _ => view.phase = .recorded
    | .saveOutboxEvent row => view.phase = .stored ∧ row.eventType = "MessagePersisted"
    | .commitTransaction => view.phase = .ready
    | .publish _ publication => Retries settings view publication
    | .ack => view.Safe
    | .count (.messagesProcessed _ .duplicate) => view.phase = .duplicate
    | _ => True
  moves view request outcome after := after = view.observe request outcome ∧ honest request outcome

variable {settings : Settings}

theorem disciplined_request {request : Request} {view : View}
    {post : View → Except Thrown (Reply request) → Prop}
    (allowed : (discipline settings).allows view request)
    (answered : ∀ outcome, honest request outcome → post (view.observe request outcome) outcome) :
    (discipline settings).Follows (Consumer.request request) view post := by
  refine Protocol.Follows.call allowed ?_
  intro outcome after moved
  obtain ⟨rfl,truth⟩ := moved
  exact answered outcome truth

def Request.silent : Request → Bool
  | .startTransaction | .saveProcessedEvent _ | .saveMessage _ | .saveOutboxEvent _
  | .commitTransaction | .publish _ _ | .waitForConfirms _ => false
  | .lifecycle _ | .recordAttempt _ | .clearAttempts _ | .connect | .rollbackTransaction | .release
  | .newDate | .randomUUID | .inject | .getChannel | .ack | .nack _ | .count _ => true

theorem observe_silent {request : Request} (silent : request.silent) (view : View)
    (outcome : Except Thrown (Reply request)) : view.observe request outcome = view := by
  cases request with
  | startTransaction | saveProcessedEvent _ | saveMessage _ | saveOutboxEvent _ | commitTransaction
  | publish _ _ | waitForConfirms _ => cases silent
  | lifecycle _ | recordAttempt _ | clearAttempts _ | connect | rollbackTransaction | release
  | newDate | randomUUID | inject | getChannel | ack | nack _ | count _ => cases outcome <;> rfl

theorem disciplined_silent {Value : Type} {request : Request} {view : View}
    {f : Reply request → Program Value} {post : View → Except Thrown Value → Prop}
    (silent : request.silent) (allowed : (discipline settings).allows view request)
    (resolved : ∀ value, honest request (.ok value) → (discipline settings).Follows (f value) view post)
    (rejected : ∀ error, post view (.error error)) :
    (discipline settings).Follows ((Consumer.request request).bind f) view post := by
  refine Protocol.Follows.bind (M := fun after outcome => after = view ∧ honest request outcome) ?_ ?_ ?_
  · refine disciplined_request allowed ?_
    intro outcome truth
    exact ⟨observe_silent silent view outcome,truth⟩
  · intro after value learned
    obtain ⟨same,truth⟩ := learned
    subst same
    exact resolved value truth
  · intro after error learned
    obtain ⟨same,_⟩ := learned
    subst same
    exact rejected error

theorem disciplined_last {request : Request} {view : View}
    {post : View → Except Thrown (Reply request) → Prop} (silent : request.silent)
    (allowed : (discipline settings).allows view request) (ends : ∀ outcome, post view outcome) :
    (discipline settings).Follows (Consumer.request request) view post := by
  refine disciplined_request allowed ?_
  intro outcome truth
  rw [observe_silent silent]
  exact ends outcome

def SameDelivery (view after : View) : Prop :=
  after.tag = view.tag ∧ after.body = view.body ∧ after.eventId = view.eventId

theorem SameDelivery.refl (view : View) : SameDelivery view view := ⟨rfl,rfl,rfl⟩

theorem insertLedgerRow_disciplined (idempotency : IdempotencyInput) {view : View}
    (opened : view.phase = .opened) (event : view.eventId = some idempotency.eventId) :
    (discipline settings).Follows (insertLedgerRow idempotency) view (fun after outcome =>
      SameDelivery view after ∧ match outcome with
        | .ok true => after.phase = .recorded
        | .ok false => after.phase = .duplicate
        | .error _ => True) := by
  unfold insertLedgerRow
  refine Protocol.Follows.tryCatch (M := fun after outcome => SameDelivery view after ∧ match outcome with
    | .ok inserted => inserted = true ∧ after.phase = .recorded
    | .error error => isUniqueViolation error = true → after.phase = .duplicate) ?_ ?_ ?_
  · refine Protocol.Follows.bind (M := fun after outcome => SameDelivery view after ∧ match outcome with
      | .ok _ => after.phase = .recorded
      | .error error => isUniqueViolation error = true → after.phase = .duplicate) ?_ ?_ ?_
    · refine disciplined_request ⟨opened,event⟩ ?_
      intro outcome truth
      cases outcome with
      | ok done => exact ⟨⟨rfl,rfl,rfl⟩,rfl⟩
      | error error => exact ⟨⟨rfl,rfl,rfl⟩,fun violation => if_pos violation⟩
    · intro after done learned
      exact ⟨learned.1,rfl,learned.2⟩
    · intro after error learned
      exact learned
  · intro after inserted learned
    obtain ⟨same,rfl,phase⟩ := learned
    exact ⟨same,phase⟩
  · intro after error learned
    obtain ⟨same,duplicate⟩ := learned
    by_cases violation : isUniqueViolation error = true
    · rw [if_pos violation]
      exact disciplined_silent rfl trivial (fun _ _ => ⟨same,duplicate violation⟩) (fun _ => ⟨same,trivial⟩)
    · rw [if_neg violation]
      exact ⟨same,trivial⟩

theorem insertOutboxEvents_disciplined {event : OutboxEventInput} {view : View}
    (stored : view.phase = .stored) (persisted : event.eventType = "MessagePersisted") :
    (discipline settings).Follows (insertOutboxEvents [event]) view (fun after outcome =>
      SameDelivery view after ∧ match outcome with
        | .ok _ => after.phase = .ready
        | .error _ => True) := by
  unfold insertOutboxEvents
  simp only [Async.bind_eq]
  refine disciplined_silent rfl trivial ?_ (fun _ => ⟨.refl view,trivial⟩)
  intro now _
  refine disciplined_silent rfl trivial ?_ (fun _ => ⟨.refl view,trivial⟩)
  intro traceContext _
  change (discipline settings).Follows
    ((insertOutboxEvent now traceContext event).bind (fun _ => .resolve ())) view _
  refine Protocol.Follows.bind (M := fun after outcome => SameDelivery view after ∧ match outcome with
    | .ok _ => after.phase = .ready
    | .error _ => True) ?_ ?_ ?_
  · unfold insertOutboxEvent
    simp only [Async.bind_eq]
    refine disciplined_silent rfl trivial ?_ (fun _ => ⟨.refl view,trivial⟩)
    intro eventId _
    refine disciplined_request ⟨stored,persisted⟩ ?_
    intro outcome _
    cases outcome with
    | ok done => exact ⟨⟨rfl,rfl,rfl⟩,rfl⟩
    | error error => exact ⟨⟨rfl,rfl,rfl⟩,trivial⟩
  · intro after done learned
    exact ⟨learned.1,learned.2⟩
  · intro after error learned
    exact ⟨learned.1,trivial⟩

def Ended (view after : View) (outcome : Except Thrown (IdempotentRunResult Message)) : Prop :=
  SameDelivery view after ∧ match outcome with
    | .ok .duplicate => after.phase = .duplicate
    | .ok (.processed _) => after.phase = .committed
    | .error _ => True

theorem SameDelivery.trans {first second third : View} (left : SameDelivery first second)
    (right : SameDelivery second third) : SameDelivery first third := by
  obtain ⟨tag,body,event⟩ := left
  obtain ⟨tag',body',event'⟩ := right
  exact ⟨tag'.trans tag,body'.trans body,event'.trans event⟩

theorem View.Of.same {delivery : Delivery} {view after : View} (of : view.Of settings delivery)
    (kept : SameDelivery view after) : after.Of settings delivery := by
  obtain ⟨_,body,event⟩ := kept
  exact ⟨body.trans of.1,event.trans of.2⟩

theorem runInTransaction_disciplined (idempotency : IdempotencyInput) (row : NewMessage)
    {event : OutboxEventInput} {view : View} (opened : view.phase = .opened)
    (same : view.eventId = some idempotency.eventId) (persisted : event.eventType = "MessagePersisted") :
    (discipline settings).Follows (runInTransaction idempotency (Consumer.request (.saveMessage row)) [event])
      view (Ended view) := by
  unfold runInTransaction
  simp only [Async.bind_eq]
  refine (insertLedgerRow_disciplined idempotency opened same).bind ?_ (fun _ _ learned => ⟨learned.1,trivial⟩)
  intro recorded inserted learned
  obtain ⟨kept,phase⟩ := learned
  cases inserted with
  | false => exact ⟨kept,phase⟩
  | true =>
    simp only [if_true]
    refine Protocol.Follows.bind (M := fun after outcome => SameDelivery view after ∧ match outcome with
      | .ok _ => after.phase = .stored
      | .error _ => True) ?_ ?_ (fun _ _ learned => ⟨learned.1,trivial⟩)
    · refine disciplined_request phase ?_
      intro outcome _
      cases outcome with
      | ok message => exact ⟨kept,rfl⟩
      | error error => exact ⟨kept,trivial⟩
    · intro stored message learned
      obtain ⟨kept,phase⟩ := learned
      refine (insertOutboxEvents_disciplined phase persisted).bind ?_ (fun _ _ learned =>
        ⟨kept.trans learned.1,trivial⟩)
      intro ready done learned
      obtain ⟨still,phase⟩ := learned
      refine Protocol.Follows.bind (M := fun after outcome => SameDelivery view after ∧ match outcome with
        | .ok _ => after.phase = .committed
        | .error _ => True) ?_ (fun _ _ learned => ⟨learned.1,learned.2⟩) (fun _ _ learned => ⟨learned.1,trivial⟩)
      refine disciplined_request phase ?_
      intro outcome _
      cases outcome with
      | ok done => exact ⟨kept.trans still,rfl⟩
      | error error => exact ⟨kept.trans still,trivial⟩

theorem runIdempotentWithOutboxEvents_disciplined (idempotency : IdempotencyInput) (row : NewMessage)
    {event : OutboxEventInput} {view : View} (idle : view.phase = .idle)
    (same : view.eventId = some idempotency.eventId) (persisted : event.eventType = "MessagePersisted") :
    (discipline settings).Follows
      (runIdempotentWithOutboxEvents idempotency (Consumer.request (.saveMessage row)) [event])
      view (Ended view) := by
  unfold runIdempotentWithOutboxEvents
  simp only [Async.bind_eq]
  refine disciplined_silent rfl trivial ?_ (fun _ => ⟨.refl view,trivial⟩)
  intro connected _
  refine Protocol.Follows.bind (M := fun after outcome => SameDelivery view after ∧ match outcome with
    | .ok _ => after.phase = .opened
    | .error _ => True) ?_ ?_ (fun _ _ learned => ⟨learned.1,trivial⟩)
  · refine disciplined_request idle ?_
    intro outcome _
    cases outcome with
    | ok done => exact ⟨⟨rfl,rfl,rfl⟩,rfl⟩
    | error error => exact ⟨⟨rfl,rfl,rfl⟩,trivial⟩
  · intro opened done learned
    obtain ⟨kept,phase⟩ := learned
    refine Protocol.Follows.tryFinally (M := Ended view) ?_ ?_
    · refine Protocol.Follows.tryCatch (M := Ended view) ?_ (fun _ _ learned => learned) ?_
      · refine (runInTransaction_disciplined idempotency row phase (kept.2.2.trans same) persisted).mono ?_
        intro after outcome learned
        exact ⟨kept.trans learned.1,learned.2⟩
      · intro after error learned
        exact disciplined_silent rfl trivial (fun _ _ => ⟨learned.1,trivial⟩) (fun _ => ⟨learned.1,trivial⟩)
    · intro after outcome learned
      refine disciplined_last rfl trivial ?_
      intro released
      cases released with
      | ok done => exact learned
      | error error => exact ⟨learned.1,trivial⟩

theorem disciplined_ack {view : View} (safe : view.Safe) {post : View → Except Thrown Unit → Prop}
    (ends : ∀ outcome, post view outcome) :
    (discipline settings).Follows (Consumer.request .ack) view post :=
  disciplined_last rfl safe ends

theorem processEvent_disciplined (event : CreateMessageEventV2) (eventTypeName : String) {view : View}
    (idle : view.phase = .idle) (same : view.eventId = some event.eventId) :
    (discipline settings).Follows (MessagingController.processEvent event eventTypeName) view
      (fun after _ => SameDelivery view after) := by
  unfold MessagingController.processEvent MessagingService.handleMessageCreationIdempotent
  simp only [Async.bind_eq]
  refine (runIdempotentWithOutboxEvents_disciplined ⟨event.eventId,eventTypeName,some event.correlationId⟩ _
    idle same rfl).bind ?_ (fun _ _ learned => learned.1)
  intro after result learned
  obtain ⟨kept,phase⟩ := learned
  cases result with
  | duplicate =>
    refine disciplined_silent rfl phase ?_ (fun _ => kept)
    intro counted _
    refine disciplined_silent rfl trivial ?_ (fun _ => kept)
    intro cleared _
    exact disciplined_ack (.inr (.inr (.inl phase))) (fun _ => kept)
  | processed message =>
    refine disciplined_silent rfl trivial ?_ (fun _ => kept)
    intro counted _
    refine disciplined_silent rfl trivial ?_ (fun _ => kept)
    intro published _
    refine disciplined_silent rfl trivial ?_ (fun _ => kept)
    intro cleared _
    exact disciplined_ack (.inr (.inl phase)) (fun _ => kept)

/-- Which event a message carries depends on no header but the schema version. -/
theorem eventIdOf_congr {body : Body} {headers other : Headers}
    (same : other.lookup schemaVersionHeader = headers.lookup schemaVersionHeader) :
    eventIdOf settings body other = eventIdOf settings body headers := by
  unfold eventIdOf MessagingController.validate MessagingController.schemaVersion
    MessagingController.readSchemaVersionHeader
  rw [same]

/-- A retry copy carries the message and the event of the delivery it is a copy of. -/
theorem publication_retries {delivery : Delivery} {view : View} (of : view.Of settings delivery)
    (nextAttempt : JsNumber) (errorMessage : String) (errorClass : ErrorClass) (now : Int)
    (correlationId : String) {carrier : TraceCarrier} (own : ∀ entry ∈ carrier, entry.1 ∈ traceHeaders) :
    Retries settings view (RetryPublisherService.publication settings.engine delivery.content
      (MessagingController.retryHeaders delivery.headers nextAttempt errorMessage errorClass now
        correlationId) nextAttempt carrier) := by
  refine ⟨rfl,rfl,of.1.symm,Eq.trans (eventIdOf_congr ?_) of.2.symm⟩
  have trace : schemaVersionHeader ∉ (carrier.map (fun entry => (entry.1,HeaderValue.str entry.2))).map
      Prod.fst := by
    intro among
    rw [List.map_map,List.mem_map] at among
    obtain ⟨entry,member,named⟩ := among
    have key : schemaVersionHeader ∈ traceHeaders := named ▸ own entry member
    exact absurd key (by decide)
  have retry : schemaVersionHeader ∉ ["x-retry-count","x-first-error","x-error-class","x-failed-at",
      "x-correlation-id"] := by decide
  exact (Headers.lookup_spread trace).trans (Headers.lookup_spread retry)

theorem publishToRetry_disciplined (delivery : Delivery) (nextAttempt : JsNumber) (errorMessage : String)
    (errorClass : ErrorClass) (now : Int) (correlationId : String) {view : View}
    (of : view.Of settings delivery) :
    (discipline settings).Follows (RetryPublisherService.publishToRetry settings.engine delivery.content
      (MessagingController.retryHeaders delivery.headers nextAttempt errorMessage errorClass now
        correlationId) nextAttempt correlationId) view (fun after outcome => match outcome with
          | .ok _ => after.scheduled = true
          | .error _ => True) := by
  unfold RetryPublisherService.publishToRetry
  simp only [Async.bind_eq]
  refine disciplined_silent rfl trivial ?_ (fun _ => trivial)
  intro channel _
  refine disciplined_silent rfl trivial ?_ (fun _ => trivial)
  intro carrier own
  have allowed := publication_retries of nextAttempt errorMessage errorClass now correlationId own
  refine Protocol.Follows.bind (M := fun after outcome => match outcome with
    | .ok _ => ∃ publication, after.written = some (channel,publication)
    | .error _ => True) ?_ ?_ (fun _ _ _ => trivial)
  · refine disciplined_request allowed ?_
    intro outcome _
    cases outcome with
    | ok accepted => exact ⟨_,rfl⟩
    | error error => trivial
  · intro after published learned
    obtain ⟨publication,written⟩ := learned
    cases published with
    | false => trivial
    | true =>
      refine disciplined_request trivial ?_
      intro outcome _
      cases outcome with
      | ok done => simp [View.observe,written]
      | error error => trivial

theorem scheduleRetry_disciplined (delivery : Delivery) (error : Thrown) (now : Int)
    (correlationId : String) {view : View}
    (of : view.Of settings delivery) :
    (discipline settings).Follows (MessagingController.scheduleRetry settings.engine delivery error now
      correlationId) view (fun _ _ => True) := by
  unfold MessagingController.scheduleRetry
  simp only [Async.bind_eq]
  refine Protocol.Follows.bind (M := fun after outcome => match outcome with
    | .ok true => after.scheduled = true
    | .ok false | .error _ => True) ?_ ?_ (fun _ _ _ => trivial)
  · refine Protocol.Follows.tryCatch (M := fun after outcome => match outcome with
      | .ok scheduled => scheduled = true ∧ after.scheduled = true
      | .error _ => True) ?_ ?_ ?_
    · refine (publishToRetry_disciplined delivery _ _ _ now correlationId of).bind ?_ (fun _ _ _ => trivial)
      intro after done scheduled
      exact ⟨rfl,scheduled⟩
    · intro after scheduled learned
      obtain ⟨rfl,confirmed⟩ := learned
      exact confirmed
    · intro after error _
      exact disciplined_silent rfl trivial (fun _ _ => trivial) (fun _ => trivial)
  · intro after scheduled learned
    cases scheduled with
    | false => trivial
    | true =>
      simp only [if_true]
      refine disciplined_silent rfl (.inr (.inr (.inr learned))) ?_ (fun _ => trivial)
      intro acked _
      exact disciplined_last rfl trivial (fun _ => trivial)

theorem handleFailure_disciplined (delivery : Delivery) (eventTypeName correlationId : String)
    (durableAttemptCount : Int) (error : Thrown) {view : View}
    (of : view.Of settings delivery) :
    (discipline settings).Follows (MessagingController.handleFailure settings.engine delivery eventTypeName
      correlationId durableAttemptCount error) view (fun _ _ => True) := by
  unfold MessagingController.handleFailure
  simp only [Async.bind_eq]
  refine disciplined_silent rfl trivial ?_ (fun _ => trivial)
  intro now _
  refine disciplined_silent rfl trivial ?_ (fun _ => trivial)
  intro counted _
  split
  next => exact scheduleRetry_disciplined delivery error now correlationId of
  next => exact disciplined_last rfl trivial (fun _ => trivial)

theorem handleValid_disciplined (delivery : Delivery) (eventTypeName : String) (event : CreateMessageEventV2)
    {view : View} (idle : view.phase = .idle) (same : view.eventId = some event.eventId)
    (of : view.Of settings delivery) :
    (discipline settings).Follows (MessagingController.handleValid settings.engine delivery eventTypeName
      event) view (fun _ _ => True) := by
  unfold MessagingController.handleValid RetryAttemptTrackerService.recordAttempt
  simp only [Async.bind_eq]
  refine Protocol.Follows.bind (M := fun after _ => after = view) ?_ ?_ (fun _ _ _ => trivial)
  · exact disciplined_silent rfl trivial (fun _ _ => rfl) (fun _ => rfl)
  · intro after durableAttemptCount here
    subst here
    refine disciplined_silent rfl trivial ?_ (fun _ => trivial)
    intro received _
    refine disciplined_silent rfl trivial ?_ (fun _ => trivial)
    intro validated _
    refine (processEvent_disciplined event eventTypeName idle same).tryCatch (fun _ _ _ => trivial) ?_
    intro later error kept
    exact handleFailure_disciplined delivery eventTypeName event.correlationId durableAttemptCount error
      (of.same kept)

theorem rejectInvalid_disciplined (data : Option Json) (eventTypeName : String)
    (errors : List ValidationFailureDetail) {view : View} (invalid : view.eventId = none) :
    (discipline settings).Follows (MessagingController.rejectInvalid data eventTypeName errors) view
      (fun _ _ => True) := by
  unfold MessagingController.rejectInvalid
  simp only [Async.bind_eq]
  refine disciplined_silent rfl trivial ?_ (fun _ => trivial)
  intro counted _
  refine disciplined_silent rfl trivial ?_ (fun _ => trivial)
  intro published _
  exact disciplined_ack (.inl invalid) (fun _ => trivial)

theorem normalize_eventId {event : ContractEvent} {normalized : CreateMessageEventV2}
    (upcast : MessagingController.normalize event = .valid normalized) :
    normalized.eventId = event.eventId := by
  cases event with
  | v2 event => obtain rfl := Parsed.valid.inj upcast; rfl
  | v1 event =>
    simp only [MessagingController.normalize,upcastCreateMessageEventV1ToV2] at upcast
    cases payload : upcastPayload event.payload with
    | valid payload =>
      rw [payload] at upcast
      obtain rfl := Parsed.valid.inj upcast
      rfl
    | invalid issues kept => rw [payload] at upcast; cases upcast

theorem handleMessage_disciplined {body : Body} {headers : Headers} {data : Option Json} (tag : Nat)
    (dispatched : dispatch body = some (.handleMessage,data)) :
    (discipline settings).Follows
      (MessagingController.handleMessage settings.engine settings.zod ⟨body,headers,data⟩)
      (.start tag body (eventIdOf settings body headers)) (fun _ _ => True) := by
  unfold MessagingController.handleMessage
  dsimp only
  split
  next errors validated =>
    have invalid : eventIdOf settings body headers = none := by simp [eventIdOf,dispatched,validated]
    exact rejectInvalid_disciplined data _ errors invalid
  next event validated =>
    have valid : eventIdOf settings body headers = some event.eventId := by
      simp [eventIdOf,dispatched,validated]
    split
    next issues _ => trivial
    next normalized upcast =>
      refine handleValid_disciplined ⟨body,headers,data⟩ _ normalized rfl ?_ ⟨rfl,rfl⟩
      exact valid.trans (congrArg some (normalize_eventId upcast).symm)

end MessagingPlatform.Consumer
