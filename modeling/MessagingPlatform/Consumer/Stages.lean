import MessagingPlatform.Consumer.Discipline
import MessagingPlatform.Consumer.Requests

/-! What a delivery tells the lifecycle exchange: the stages come in their order, each record is the
one that its message makes, and `persisted` comes only after the commit. A message that is no valid
event is rejected, and then the delivery asks for nothing but its ack. -/
namespace MessagingPlatform.Consumer
open Schema OutboxTransactionService

/-- The record of a message at a stage. A message has a record of the stage `rejected`, or of the
three others, or it stops the handler before there is any. -/
def announcement (settings : Settings) (body : Body) (headers : Headers) (stage : LifecycleStage) :
    Option LifecycleRecord :=
  match dispatch body with
  | some (.handleMessage,data) =>
      let eventType := (MessagingController.schemaVersion settings.engine headers data).eventTypeName
      match MessagingController.validate settings.engine settings.zod headers data with
      | .error errors =>
          if stage = .rejected then
            some ⟨.rejected,eventType,MessagingController.extractIdentifier data "eventId",
              MessagingController.extractIdentifier data "correlationId",some errors⟩
          else none
      | .ok event =>
          match MessagingController.normalize event with
          | .valid event =>
              if stage = .rejected then none
              else some ⟨stage,eventType,event.eventId,event.correlationId,none⟩
          | .invalid _ _ => none
  | _ => none

/-- What a delivery has told so far. After a record that could not be published it tells no more. -/
structure Telling where
  announces : LifecycleStage → Option LifecycleRecord
  told : List LifecycleStage
  cut : Bool
  committed : Bool

def LifecycleStage.chain : List LifecycleStage := [.received,.validated,.persisted]

def LifecycleStage.Ordered (stages : List LifecycleStage) : Prop :=
  stages <+: LifecycleStage.chain ∨ stages <+: [.rejected]

namespace Telling

def start (announces : LifecycleStage → Option LifecycleRecord) : Telling := ⟨announces,[],false,false⟩

def observe (telling : Telling) : (request : Request) → Except Thrown (Reply request) → Telling
  | .lifecycle record, .ok _ => { telling with told := telling.told ++ [record.stage] }
  | .lifecycle _, .error _ => { telling with cut := true }
  | .commitTransaction, .ok _ => { telling with committed := true }
  | _, _ => telling

def Conveys (telling : Telling) : Prop := telling.announces .received ≠ none

end Telling

def staging : Protocol Telling Thrown Request Reply where
  allows telling
    | .lifecycle record => telling.cut = false ∧ telling.announces record.stage = some record ∧
        LifecycleStage.Ordered (telling.told ++ [record.stage]) ∧
        (record.stage = .persisted → telling.committed = true)
    | .count metric => telling.Conveys ∨ ∃ rejection : LifecycleRecord,
        telling.announces .rejected = some rejection ∧ metric = .messagesFailed rejection.eventType .validation
    | .ack => telling.Conveys ∨ telling.announces .rejected ≠ none
    | _ => telling.Conveys
  moves before request outcome after := after = before.observe request outcome

def Request.needsEvent : Request → Bool
  | .lifecycle _ | .count _ | .ack => false
  | _ => true

/-- What the delivery of a rejected message asks for, in this order. -/
def LifecycleRecord.rejecting (rejection : LifecycleRecord) : List Request :=
  [.count (.messagesFailed rejection.eventType .validation),.lifecycle rejection,.ack]

theorem allows_carries {request : Request} (needs : request.needsEvent = true) {telling : Telling}
    (allowed : staging.allows telling request) : telling.Conveys := by
  cases request with
  | lifecycle _ | count _ | ack => cases needs
  | _ => exact allowed

/-- Without an event there is nothing to ask for but the rejection. -/
theorem allows_rejecting {request : Request} {telling : Telling} (allowed : staging.allows telling request)
    (eventless : ∀ stage, stage ≠ .rejected → telling.announces stage = none) :
    ∃ rejection, telling.announces .rejected = some rejection ∧ request ∈ rejection.rejecting := by
  have unconveyed : ¬ telling.Conveys := fun conveys => conveys (eventless .received (by decide))
  cases request with
  | lifecycle record =>
    obtain ⟨_,announced,_⟩ := allowed
    by_cases rejected : record.stage = .rejected
    · exact ⟨record,rejected ▸ announced,by simp [LifecycleRecord.rejecting]⟩
    · cases (eventless record.stage rejected).symm.trans announced
  | count metric =>
    obtain conveys | ⟨rejection,announced,rfl⟩ := allowed
    · exact absurd conveys unconveyed
    · exact ⟨rejection,announced,by simp [LifecycleRecord.rejecting]⟩
  | ack =>
    obtain conveys | announced := allowed
    · exact absurd conveys unconveyed
    · obtain ⟨rejection,announced⟩ := Option.ne_none_iff_exists'.mp announced
      exact ⟨rejection,announced,by simp [LifecycleRecord.rejecting]⟩
  | _ => exact absurd allowed unconveyed

theorem staged_request {request : Request} {telling : Telling}
    {post : Telling → Except Thrown (Reply request) → Prop} (allowed : staging.allows telling request)
    (answered : ∀ outcome, post (telling.observe request outcome) outcome) :
    staging.Follows (Consumer.request request) telling post := by
  apply Protocol.Follows.call allowed
  intro outcome after moved
  subst moved
  exact answered outcome

def Request.untold : Request → Bool
  | .lifecycle _ | .commitTransaction => false
  | _ => true

variable {telling : Telling}

theorem observe_untold {request : Request} (untold : request.untold = true) (telling : Telling)
    (outcome : Except Thrown (Reply request)) : telling.observe request outcome = telling := by
  cases request with
  | lifecycle _ | commitTransaction => cases untold
  | _ => cases outcome <;> rfl

theorem allows_untold {request : Request} (untold : request.untold = true) (conveys : telling.Conveys) :
    staging.allows telling request := by
  cases request with
  | lifecycle _ => cases untold
  | count _ | ack => exact .inl conveys
  | _ => exact conveys

theorem untold_still {request : Request} (untold : request.untold = true) (conveys : telling.Conveys) :
    staging.Still (Consumer.request request) telling :=
  staged_request (allows_untold untold conveys) (observe_untold untold telling)

/-- Parts of the handler that only make such requests leave what is told alone. -/
theorem asks_still {Value : Type} {program : Program Value} {named : Request → Prop}
    (asks : program.Asks named) (untold : ∀ request, named request → request.untold = true)
    (conveys : telling.Conveys) : staging.Still program telling := by
  apply asks.still
  · intro request asked
    exact allows_untold (untold request asked) conveys
  · intro request outcome after asked moved
    exact moved.trans (observe_untold (untold request asked) telling outcome)

def Committing (telling after : Telling) : Prop := after = telling ∨ after = { telling with committed := true }

theorem Committing.conveys {after : Telling} (committing : Committing telling after)
    (conveys : telling.Conveys) : after.Conveys := by
  rcases committing with rfl | rfl <;> exact conveys

def Told (telling after : Telling) (outcome : Except Thrown (IdempotentRunResult Message)) : Prop :=
  Committing telling after ∧
    ∀ message, outcome = .ok (.processed message) → after = { telling with committed := true }

theorem runInTransaction_staged (idempotency : IdempotencyInput) (row : NewMessage)
    (events : List OutboxEventInput) (conveys : telling.Conveys) :
    staging.Follows (runInTransaction idempotency (Consumer.request (.saveMessage row)) events) telling
      (Told telling) := by
  have lost : ∀ error, Told telling telling (.error error : Except Thrown (IdempotentRunResult Message)) :=
    fun error => ⟨.inl rfl,fun value same => by cases same⟩
  unfold runInTransaction
  simp only [Async.bind_eq]
  have ledger : (insertLedgerRow idempotency).Asks (fun request => request.enveloped = true ∧
      request.untold = true) := insertLedgerRow_asks ⟨rfl,rfl⟩ ⟨rfl,rfl⟩
  refine (asks_still ledger (fun _ asked => asked.2) conveys).before ?_ lost
  intro inserted
  cases inserted with
  | false =>
    refine ⟨.inl rfl,?_⟩
    intro value same
    cases same
  | true =>
    rw [if_pos rfl]
    refine (untold_still rfl conveys).before ?_ lost
    intro message
    have inserts : (insertOutboxEvents events).Asks (fun request => request.untold = true) :=
      insertOutboxEvents_asks rfl rfl rfl (fun _ _ _ _ _ _ => rfl)
    refine (asks_still inserts (fun _ untold => untold) conveys).before ?_ lost
    intro done
    apply @Protocol.Follows.bind _ _ _ _ _ _ _ _ _ _ (fun after (outcome : Except Thrown Unit) =>
      Committing telling after ∧ (outcome = .ok () → after = { telling with committed := true }))
    · refine staged_request conveys ?_
      intro outcome
      cases outcome with
      | ok committed => exact ⟨.inr rfl,fun _ => rfl⟩
      | error error =>
        refine ⟨.inl rfl,?_⟩
        intro same
        cases same
    · intro after committed learned
      exact ⟨learned.1,fun _ _ => learned.2 rfl⟩
    · intro after error learned
      refine ⟨learned.1,?_⟩
      intro value same
      cases same

theorem runIdempotentWithOutboxEvents_staged (idempotency : IdempotencyInput) (row : NewMessage)
    (events : List OutboxEventInput) (conveys : telling.Conveys) :
    staging.Follows (runIdempotentWithOutboxEvents idempotency (Consumer.request (.saveMessage row)) events)
      telling (Told telling) := by
  have lost : ∀ after error, Committing telling after →
      Told telling after (.error error : Except Thrown (IdempotentRunResult Message)) :=
    fun after error committing => ⟨committing,fun value same => by cases same⟩
  unfold runIdempotentWithOutboxEvents
  simp only [Async.bind_eq]
  refine (untold_still rfl conveys).before ?_ (fun error => lost telling error (.inl rfl))
  intro connected
  refine (untold_still rfl conveys).before ?_ (fun error => lost telling error (.inl rfl))
  intro started
  apply @Protocol.Follows.tryFinally _ _ _ _ _ _ _ _ _ (Told telling)
  · apply (runInTransaction_staged idempotency row events conveys).tryCatch (fun _ _ told => told)
    intro after error told
    exact (untold_still rfl (told.1.conveys conveys)).before (fun _ => lost after error told.1)
      (fun thrown => lost after thrown told.1)
  · intro after outcome told
    apply Protocol.Follows.mono (untold_still rfl (told.1.conveys conveys))
    intro later released same
    subst same
    cases released with
    | ok done => exact told
    | error error => exact lost _ error told.1

structure Telling.Validated (telling : Telling) (eventType eventId correlationId : String) : Prop where
  announces : ∀ stage, stage ≠ .rejected →
    telling.announces stage = some ⟨stage,eventType,eventId,correlationId,none⟩
  told : telling.told = [.received,.validated]
  uncut : telling.cut = false

theorem Telling.Validated.conveys {eventType eventId correlationId : String}
    (validated : telling.Validated eventType eventId correlationId) : telling.Conveys := by
  unfold Telling.Conveys
  rw [validated.announces .received (by decide)]
  exact Option.some_ne_none _

theorem processEvent_staged (event : CreateMessageEventV2) (eventTypeName : String)
    (validated : telling.Validated eventTypeName event.eventId event.correlationId) :
    staging.Follows (MessagingController.processEvent event eventTypeName) telling
      (fun after _ => after.Conveys) := by
  have conveys := validated.conveys
  have clears : ∀ after : Telling, after.Conveys →
      staging.Follows ((Consumer.request (.clearAttempts event.eventId)).bind (fun _ => Consumer.request .ack))
        after (fun later (_ : Except Thrown Unit) => later.Conveys) := by
    intro after conveys
    refine (untold_still rfl conveys).before ?_ (fun _ => conveys)
    intro cleared
    exact (untold_still rfl conveys).mono (fun later _ same => same ▸ conveys)
  unfold MessagingController.processEvent MessagingService.handleMessageCreationIdempotent
  simp only [Async.bind_eq]
  apply (runIdempotentWithOutboxEvents_staged _ _ _ conveys).bind
  · intro after result told
    have kept := told.1.conveys conveys
    cases result with
    | duplicate => exact (untold_still rfl kept).before (fun _ => clears after kept) (fun _ => kept)
    | processed message =>
      obtain rfl := told.2 message rfl
      refine (untold_still rfl kept).before ?_ (fun _ => kept)
      intro counted
      apply @Protocol.Follows.bind _ _ _ _ _ _ _ _ _ _ (fun later (_ : Except Thrown Unit) => later.Conveys)
      · refine staged_request ⟨validated.uncut,validated.announces .persisted (by decide),?_,fun _ => rfl⟩ ?_
        · change LifecycleStage.Ordered (telling.told ++ [.persisted])
          rw [validated.told]
          exact .inl (List.prefix_refl _)
        · intro outcome
          cases outcome <;> exact conveys
      · intro later published kept
        exact clears later kept
      · intro later error kept
        exact kept
  · intro after error told
    exact told.1.conveys conveys

theorem handleFailure_staged (engine : Engine) (delivery : Delivery) (eventTypeName correlationId : String)
    (durableAttemptCount : Int) (error : Thrown) (conveys : telling.Conveys) :
    staging.Still (MessagingController.handleFailure engine delivery eventTypeName correlationId
      durableAttemptCount error) telling := by
  have asks : (MessagingController.handleFailure engine delivery eventTypeName correlationId
      durableAttemptCount error).Asks (fun request => request.untold = true) := by
    unfold MessagingController.handleFailure
    refine Async.Asks.bind (Async.Asks.call rfl) ?_
    intro now
    refine Async.Asks.bind (Async.Asks.call rfl) ?_
    intro counted
    split
    next =>
      refine Async.Asks.bind (Async.Asks.tryCatch ?_ ?_) ?_
      · refine Async.Asks.bind (publishToRetry_asks correlationId ?_ (fun _ _ => rfl)) (fun _ => trivial)
        intro request republishes _
        cases request <;> first | rfl | cases republishes
      · intro failed
        exact Async.Asks.bind (Async.Asks.call rfl) (fun _ => trivial)
      · intro scheduled
        cases scheduled with
        | false => exact trivial
        | true => exact Async.Asks.bind (Async.Asks.call rfl) (fun _ => Async.Asks.call rfl)
    next => exact Async.Asks.call rfl
  exact asks_still asks (fun _ untold => untold) conveys

theorem handleValid_staged (engine : Engine) (delivery : Delivery) (eventTypeName : String)
    (event : CreateMessageEventV2) {announces : LifecycleStage → Option LifecycleRecord}
    (announced : ∀ stage, stage ≠ .rejected →
      announces stage = some ⟨stage,eventTypeName,event.eventId,event.correlationId,none⟩) :
    staging.Follows (MessagingController.handleValid engine delivery eventTypeName event) (.start announces)
      (fun _ _ => True) := by
  have conveys : (Telling.start announces).Conveys := by
    unfold Telling.Conveys Telling.start
    dsimp only
    rw [announced .received (by decide)]
    exact Option.some_ne_none _
  unfold MessagingController.handleValid RetryAttemptTrackerService.recordAttempt
  simp only [Async.bind_eq]
  have counts : staging.Still ((Consumer.request (.recordAttempt event.eventId)).bind
      (fun rows => .resolve (rows.head?.getD 1))) (.start announces) :=
    (untold_still rfl conveys).bind (fun _ => rfl)
  refine counts.before ?_ (fun _ => trivial)
  intro durableAttemptCount
  apply @Protocol.Follows.bind _ _ _ _ _ _ _ _ _ _ (fun after (outcome : Except Thrown Unit) =>
    outcome = .ok () → after = ⟨announces,[.received],false,false⟩)
  · refine staged_request ⟨rfl,announced .received (by decide),.inl ⟨[.validated,.persisted],rfl⟩,?_⟩ ?_
    · intro same
      cases same
    · intro outcome resolved
      subst resolved
      rfl
  · intro after received learned
    obtain rfl := learned rfl
    apply @Protocol.Follows.bind _ _ _ _ _ _ _ _ _ _ (fun after (outcome : Except Thrown Unit) =>
      outcome = .ok () → after = ⟨announces,[.received,.validated],false,false⟩)
    · refine staged_request ⟨rfl,announced .validated (by decide),.inl ⟨[.persisted],rfl⟩,?_⟩ ?_
      · intro same
        cases same
      · intro outcome resolved
        subst resolved
        rfl
    · intro later validated learned
      obtain rfl := learned rfl
      apply (processEvent_staged event eventTypeName ⟨announced,rfl,rfl⟩).tryCatch (fun _ _ _ => trivial)
      intro final error conveys
      exact (handleFailure_staged engine delivery eventTypeName event.correlationId durableAttemptCount error
        conveys).mono (fun _ _ _ => trivial)
    · intro later error _
      trivial
  · intro after error _
    trivial

theorem rejectInvalid_staged (data : Option Json) (eventTypeName : String)
    (errors : List ValidationFailureDetail) {announces : LifecycleStage → Option LifecycleRecord}
    (announced : announces .rejected = some ⟨.rejected,eventTypeName,
      MessagingController.extractIdentifier data "eventId",
      MessagingController.extractIdentifier data "correlationId",some errors⟩) :
    staging.Follows (MessagingController.rejectInvalid data eventTypeName errors) (.start announces)
      (fun _ _ => True) := by
  unfold MessagingController.rejectInvalid
  simp only [Async.bind_eq]
  apply @Protocol.Follows.bind _ _ _ _ _ _ _ _ _ _ (fun after (_ : Except Thrown Unit) => after = .start announces)
  · refine staged_request (.inr ⟨_,announced,rfl⟩) ?_
    intro outcome
    cases outcome <;> rfl
  · intro after counted same
    subst same
    apply @Protocol.Follows.bind _ _ _ _ _ _ _ _ _ _ (fun later (_ : Except Thrown Unit) =>
      later.announces = announces)
    · refine staged_request ⟨rfl,announced,.inr (List.prefix_refl _),?_⟩ ?_
      · intro same
        cases same
      · intro outcome
        cases outcome <;> rfl
    · intro later published same
      refine staged_request (.inr ?_) (fun _ => trivial)
      rw [same,announced]
      exact Option.some_ne_none _
    · intro later error _
      trivial
  · intro after error _
    trivial

theorem handleMessage_staged {settings : Settings} {body : Body} {headers : Headers} {data : Option Json}
    (dispatched : dispatch body = some (.handleMessage,data)) :
    staging.Follows (MessagingController.handleMessage settings.engine settings.zod ⟨body,headers,data⟩)
      (.start (announcement settings body headers)) (fun _ _ => True) := by
  unfold MessagingController.handleMessage
  dsimp only
  split
  next errors invalid =>
    apply rejectInvalid_staged
    simp [announcement,dispatched,invalid]
  next event validated =>
    split
    next issues _ => trivial
    next normalized upcast =>
      apply handleValid_staged
      intro stage other
      simp [announcement,dispatched,validated,upcast,other]

/-- A record of the chain names the event that the message conveys. -/
theorem announcement_event {settings : Settings} {body : Body} {headers : Headers} {stage : LifecycleStage}
    {record : LifecycleRecord} (announced : announcement settings body headers stage = some record)
    (other : stage ≠ .rejected) : eventIdOf settings body headers = some record.eventId := by
  unfold announcement at announced
  split at announced
  next data dispatched =>
    dsimp only at announced
    split at announced
    next errors _ =>
      rw [if_neg other] at announced
      cases announced
    next event validated =>
      split at announced
      next normalized upcast =>
        rw [if_neg other] at announced
        obtain rfl := Option.some.inj announced
        simp [eventIdOf,dispatched,validated,normalize_eventId upcast]
      next => cases announced
  next => cases announced

end MessagingPlatform.Consumer
