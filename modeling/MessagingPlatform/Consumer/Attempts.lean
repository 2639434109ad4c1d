import MessagingPlatform.Consumer.Discipline
import MessagingPlatform.Consumer.Requests

/-! What a delivery does with the attempt count that it was given: it asks for one count, it makes
one retry copy and one requeue at most, and only within the budget, and it clears the counter
only after its event is processed. -/
namespace MessagingPlatform.Consumer
open Schema OutboxTransactionService

structure Budget where
  eventId : Option String
  asked : Bool
  count : Option Int
  /-- The failure counter was called. -/
  failed : Bool
  scheduled : Bool
  requeued : Bool
  dead : Bool
  /-- The transaction has committed, or it has found its event committed. -/
  concluded : Bool

namespace Budget

def start (eventId : Option String) : Budget := ⟨eventId,false,none,false,false,false,false,false⟩

def observe (budget : Budget) : (request : Request) → Except Thrown (Reply request) → Budget
  | .recordAttempt _, .ok rows => { budget with asked := true, count := some (rows.head?.getD 1) }
  | .recordAttempt _, .error _ => { budget with asked := true }
  | .publish _ _, _ => { budget with scheduled := true }
  | .nack true, _ => { budget with requeued := true }
  | .nack false, .ok _ => { budget with dead := true }
  | .count (.messagesFailed _ _), _ => { budget with failed := true }
  | .commitTransaction, .ok _ => { budget with concluded := true }
  | .saveProcessedEvent _, .error error =>
      { budget with concluded := budget.concluded || isUniqueViolation error }
  | _, _ => budget

def Within (budget : Budget) : Prop := ∃ count, budget.count = some count ∧ count < RetryConfig.maxAttempts

/-- A handler that returns after a failure beyond the budget has dead-lettered its message. -/
def Ends (budget : Budget) : Except Thrown Unit → Prop
  | .ok _ => budget.failed = true → budget.asked = true →
      ∃ count, budget.count = some count ∧ (RetryConfig.maxAttempts ≤ count → budget.dead = true)
  | .error _ => True

end Budget

def budgeting : Protocol Budget Thrown Request Reply where
  allows budget
    | .recordAttempt eventId => budget.asked = false ∧ budget.eventId = some eventId
    | .clearAttempts eventId => budget.concluded = true ∧ budget.eventId = some eventId
    | .publish _ _ => budget.Within ∧ budget.scheduled = false
    | .nack true => budget.Within ∧ budget.requeued = false
    | _ => True
  moves before request outcome after := after = before.observe request outcome

theorem budgeted_request {request : Request} {budget : Budget}
    {post : Budget → Except Thrown (Reply request) → Prop} (allowed : budgeting.allows budget request)
    (answered : ∀ outcome, post (budget.observe request outcome) outcome) :
    budgeting.Follows (Consumer.request request) budget post := by
  apply Protocol.Follows.call allowed
  intro outcome after moved
  subst moved
  exact answered outcome

def Request.free : Request → Bool
  | .recordAttempt _ | .clearAttempts _ | .saveProcessedEvent _ | .commitTransaction | .publish _ _
  | .nack _ | .count (.messagesFailed _ _) => false
  | _ => true

theorem observe_free {request : Request} (free : request.free = true) (budget : Budget)
    (outcome : Except Thrown (Reply request)) : budget.observe request outcome = budget := by
  cases request with
  | recordAttempt _ | clearAttempts _ | saveProcessedEvent _ | commitTransaction | publish _ _ | nack _ =>
    cases free
  | count metric =>
    cases metric with
    | messagesFailed _ _ => cases free
    | messagesProcessed _ _ | retryCount _ => cases outcome <;> rfl
  | _ => cases outcome <;> rfl

theorem allows_free {request : Request} (free : request.free = true) (budget : Budget) :
    budgeting.allows budget request := by
  cases request with
  | recordAttempt _ | clearAttempts _ | publish _ _ | nack _ => cases free
  | _ => trivial

theorem free_still {request : Request} (free : request.free = true) (budget : Budget) :
    budgeting.Still (Consumer.request request) budget :=
  budgeted_request (allows_free free budget) (observe_free free budget)

theorem budgeted_free {Value : Type} {request : Request} {budget : Budget}
    {f : Reply request → Program Value} {post : Budget → Except Thrown Value → Prop}
    (free : request.free = true) (resolved : ∀ value, budgeting.Follows (f value) budget post)
    (rejected : ∀ error, post budget (.error error)) :
    budgeting.Follows ((Consumer.request request).bind f) budget post :=
  (free_still free budget).before resolved rejected

theorem budgeted_last {request : Request} {budget : Budget}
    {post : Budget → Except Thrown (Reply request) → Prop} (free : request.free = true)
    (ends : ∀ outcome, post budget outcome) : budgeting.Follows (Consumer.request request) budget post := by
  apply budgeted_request (allows_free free budget)
  intro outcome
  rw [observe_free free]
  exact ends outcome

/-- A delivery in its try block: it knows its count and has not spent it. -/
structure Budget.Tracks (eventId : String) (count : Int) (budget : Budget) : Prop where
  event : budget.eventId = some eventId
  counted : budget.count = some count
  succeeding : budget.failed = false
  unscheduled : budget.scheduled = false
  unrequeued : budget.requeued = false

def Concludes {Value : Type} (eventId : String) (count : Int) (after : Budget)
    (outcome : Except Thrown Value) : Prop :=
  after.Tracks eventId count ∧ (outcome.isOk = true → after.concluded = true)

variable {eventId : String} {count : Int} {budget : Budget}

theorem insertLedgerRow_budgeted (idempotency : IdempotencyInput) (tracks : budget.Tracks eventId count) :
    budgeting.Follows (insertLedgerRow idempotency) budget (fun after outcome =>
      after.Tracks eventId count ∧ (outcome = .ok false → after.concluded = true)) := by
  obtain ⟨event,counted,succeeding,unscheduled,unrequeued⟩ := tracks
  unfold insertLedgerRow
  apply @Protocol.Follows.tryCatch _ _ _ _ _ _ _ _ _ (fun after outcome =>
    after.Tracks eventId count ∧ (∀ inserted, outcome = .ok inserted → inserted = true) ∧
      ∀ error, outcome = .error error → isUniqueViolation error = true → after.concluded = true)
  · apply @Protocol.Follows.bind _ _ _ _ _ _ _ _ _ _ (fun after outcome =>
      after.Tracks eventId count ∧
        ∀ error, outcome = .error error → isUniqueViolation error = true → after.concluded = true)
    · refine budgeted_request trivial ?_
      intro outcome
      cases outcome with
      | ok done => exact ⟨⟨event,counted,succeeding,unscheduled,unrequeued⟩,fun _ same => by cases same⟩
      | error error =>
        refine ⟨⟨event,counted,succeeding,unscheduled,unrequeued⟩,?_⟩
        intro thrown same violation
        obtain rfl := Except.error.inj same
        simp [Budget.observe,violation]
    · intro after done learned
      exact ⟨learned.1,fun _ same => (Except.ok.inj same).symm,fun _ same => by cases same⟩
    · intro after error learned
      refine ⟨learned.1,?_,?_⟩
      · intro inserted same
        cases same
      · intro thrown same
        exact learned.2 thrown (congrArg _ (Except.error.inj same))
  · intro after inserted learned
    obtain ⟨kept,resolved,_⟩ := learned
    have stored : inserted = true := resolved inserted rfl
    refine ⟨kept,?_⟩
    intro same
    rw [stored] at same
    cases same
  · intro after error learned
    obtain ⟨kept,_,violated⟩ := learned
    by_cases violation : isUniqueViolation error = true
    · rw [if_pos violation]
      apply budgeted_free rfl
      · intro rolledBack
        exact ⟨kept,fun _ => violated error rfl violation⟩
      · intro error
        refine ⟨kept,?_⟩
        intro same
        cases same
    · rw [if_neg violation]
      refine ⟨kept,?_⟩
      intro same
      cases same

theorem insertOutboxEvents_budgeted (events : List OutboxEventInput) :
    budgeting.Still (insertOutboxEvents events) budget := by
  have free : ∀ request : Request, request.inserts = true → request.free = true := by
    intro request inserts
    cases request <;> first | rfl | cases inserts
  apply (insertOutboxEvents_inserts events).still
  · intro request inserts
    exact allows_free (free request inserts) budget
  · intro request outcome after inserts moved
    exact moved.trans (observe_free (free request inserts) budget outcome)

theorem runInTransaction_budgeted (idempotency : IdempotencyInput) (row : NewMessage)
    (events : List OutboxEventInput) (tracks : budget.Tracks eventId count) :
    budgeting.Follows (runInTransaction idempotency (Consumer.request (.saveMessage row)) events) budget
      (Concludes eventId count) := by
  unfold runInTransaction
  simp only [Async.bind_eq]
  apply (insertLedgerRow_budgeted idempotency tracks).bind
  · intro recorded inserted learned
    obtain ⟨kept,duplicate⟩ := learned
    cases inserted with
    | false => exact ⟨kept,fun _ => duplicate rfl⟩
    | true =>
      rw [if_pos rfl]
      apply budgeted_free rfl ?_ (fun _ => ⟨kept,fun impossible => by cases impossible⟩)
      intro message
      apply (insertOutboxEvents_budgeted events).before
      · intro done
        apply @Protocol.Follows.bind _ _ _ _ _ _ _ _ _ _ (Concludes eventId count)
        · refine budgeted_request trivial ?_
          intro outcome
          obtain ⟨event,counted,succeeding,unscheduled,unrequeued⟩ := kept
          cases outcome with
          | ok done => exact ⟨⟨event,counted,succeeding,unscheduled,unrequeued⟩,fun _ => rfl⟩
          | error error =>
            exact ⟨⟨event,counted,succeeding,unscheduled,unrequeued⟩,fun impossible => by cases impossible⟩
        · intro later done concludes
          exact ⟨concludes.1,fun _ => concludes.2 rfl⟩
        · intro later error concludes
          exact ⟨concludes.1,fun impossible => by cases impossible⟩
      · intro error
        exact ⟨kept,fun impossible => by cases impossible⟩
  · intro after error learned
    exact ⟨learned.1,fun impossible => by cases impossible⟩

theorem runIdempotentWithOutboxEvents_budgeted (idempotency : IdempotencyInput) (row : NewMessage)
    (events : List OutboxEventInput) (tracks : budget.Tracks eventId count) :
    budgeting.Follows
      (runIdempotentWithOutboxEvents idempotency (Consumer.request (.saveMessage row)) events) budget
      (Concludes eventId count) := by
  unfold runIdempotentWithOutboxEvents
  simp only [Async.bind_eq]
  apply budgeted_free rfl ?_ (fun _ => ⟨tracks,fun impossible => by cases impossible⟩)
  intro connected
  apply budgeted_free rfl ?_ (fun _ => ⟨tracks,fun impossible => by cases impossible⟩)
  intro started
  apply @Protocol.Follows.tryFinally _ _ _ _ _ _ _ _ _ (Concludes eventId count)
  · apply (runInTransaction_budgeted idempotency row events tracks).tryCatch (fun _ _ concludes => concludes)
    intro after error concludes
    have lost : ∀ thrown : Thrown, @Concludes (IdempotentRunResult Message) eventId count after
        (.error thrown) := by
      intro thrown
      exact ⟨concludes.1,fun impossible => by cases impossible⟩
    exact budgeted_free rfl (fun _ => lost error) lost
  · intro after outcome concludes
    apply budgeted_last rfl
    intro released
    cases released with
    | ok done => exact concludes
    | error error => exact ⟨concludes.1,fun impossible => by cases impossible⟩

theorem processEvent_budgeted (event : CreateMessageEventV2) (eventTypeName : String)
    (tracks : budget.Tracks event.eventId count) :
    budgeting.Follows (MessagingController.processEvent event eventTypeName) budget
      (fun after _ => after.Tracks event.eventId count) := by
  unfold MessagingController.processEvent MessagingService.handleMessageCreationIdempotent
  simp only [Async.bind_eq]
  apply (runIdempotentWithOutboxEvents_budgeted _ _ _ tracks).bind
  · intro after result learned
    obtain ⟨kept,concluded⟩ := learned
    have clears : budgeting.Follows ((Consumer.request (.clearAttempts event.eventId)).bind
        (fun _ => Consumer.request .ack)) after (fun later _ => later.Tracks event.eventId count) := by
      have still : budgeting.Still (Consumer.request (.clearAttempts event.eventId)) after := by
        refine budgeted_request ⟨concluded rfl,kept.event⟩ ?_
        intro outcome
        cases outcome <;> rfl
      exact still.before (fun _ => budgeted_last rfl (fun _ => kept)) (fun _ => kept)
    cases result with
    | duplicate => exact budgeted_free rfl (fun _ => clears) (fun _ => kept)
    | processed message =>
      apply budgeted_free rfl ?_ (fun _ => kept)
      intro counted
      exact budgeted_free rfl (fun _ => clears) (fun _ => kept)
  · intro after error learned
    exact learned.1

theorem publishToRetry_budgeted (engine : Engine) (payload : Body) (headers : Headers)
    (attemptNumber : JsNumber) (correlationId : String) (counted : budget.count = some count)
    (within : count < RetryConfig.maxAttempts) (unscheduled : budget.scheduled = false)
    (unrequeued : budget.requeued = false) :
    budgeting.Follows (RetryPublisherService.publishToRetry engine payload headers attemptNumber correlationId)
      budget (fun after _ => after.count = some count ∧ after.requeued = false) := by
  unfold RetryPublisherService.publishToRetry
  simp only [Async.bind_eq]
  apply budgeted_free rfl ?_ (fun _ => ⟨counted,unrequeued⟩)
  intro channel
  apply budgeted_free rfl ?_ (fun _ => ⟨counted,unrequeued⟩)
  intro carrier
  apply @Protocol.Follows.bind _ _ _ _ _ _ _ _ _ _ (fun after _ =>
    after.count = some count ∧ after.requeued = false)
  · refine budgeted_request ⟨⟨count,counted,within⟩,unscheduled⟩ ?_
    intro outcome
    cases outcome <;> exact ⟨counted,unrequeued⟩
  · intro after published kept
    cases published with
    | false => exact kept
    | true => exact budgeted_last rfl (fun _ => kept)
  · intro after error kept
    exact kept

variable (engine : Engine)

theorem scheduleRetry_budgeted (delivery : Delivery) (error : Thrown) (now : Int) (correlationId : String)
    (counted : budget.count = some count) (within : count < RetryConfig.maxAttempts)
    (unscheduled : budget.scheduled = false) (unrequeued : budget.requeued = false) :
    budgeting.Follows (MessagingController.scheduleRetry engine delivery error now correlationId) budget
      (fun after _ => after.count = some count) := by
  unfold MessagingController.scheduleRetry
  simp only [Async.bind_eq]
  apply @Protocol.Follows.bind _ _ _ _ _ _ _ _ _ _ (fun after _ => after.count = some count)
  · apply @Protocol.Follows.tryCatch _ _ _ _ _ _ _ _ _ (fun after _ =>
      after.count = some count ∧ after.requeued = false)
    · exact (publishToRetry_budgeted engine _ _ _ _ counted within unscheduled unrequeued).bind
        (fun _ _ kept => kept) (fun _ _ kept => kept)
    · intro after scheduled kept
      exact kept.1
    · intro after error kept
      obtain ⟨counted,unrequeued⟩ := kept
      apply @Protocol.Follows.bind _ _ _ _ _ _ _ _ _ _ (fun later _ => later.count = some count)
      · refine budgeted_request ⟨⟨count,counted,within⟩,unrequeued⟩ ?_
        intro outcome
        cases outcome <;> exact counted
      · intro later done kept
        exact kept
      · intro later error kept
        exact kept
  · intro after scheduled counted
    cases scheduled with
    | false => exact counted
    | true =>
      rw [if_pos rfl]
      apply budgeted_free rfl ?_ (fun _ => counted)
      intro acked
      exact budgeted_last rfl (fun _ => counted)
  · intro after error counted
    exact counted

theorem handleFailure_budgeted (delivery : Delivery) (eventTypeName correlationId : String) (error : Thrown)
    (tracks : budget.Tracks eventId count) :
    budgeting.Follows (MessagingController.handleFailure engine delivery eventTypeName correlationId count error)
      budget Budget.Ends := by
  obtain ⟨_,counted,_,unscheduled,unrequeued⟩ := tracks
  unfold MessagingController.handleFailure
  simp only [Async.bind_eq]
  apply budgeted_free rfl ?_ (fun _ => trivial)
  intro now
  apply @Protocol.Follows.bind _ _ _ _ _ _ _ _ _ _ (fun after _ => after = { budget with failed := true })
  · refine budgeted_request trivial ?_
    intro outcome
    cases outcome <;> rfl
  · intro after done same
    subst same
    split
    next retryable =>
      have within := retryable.2
      have follows := @scheduleRetry_budgeted count { budget with failed := true } engine delivery error now
        correlationId counted within unscheduled unrequeued
      apply follows.mono
      intro later outcome same
      cases outcome with
      | error error => trivial
      | ok done =>
        intro _ _
        exact ⟨count,same,fun beyond => absurd within (Int.not_lt.mpr beyond)⟩
    next =>
      refine budgeted_request trivial ?_
      intro outcome
      cases outcome with
      | ok done => exact fun _ _ => ⟨count,counted,fun _ => rfl⟩
      | error error => trivial
  · intro after error same
    trivial

theorem handleValid_budgeted (delivery : Delivery) (eventTypeName : String) (event : CreateMessageEventV2) :
    budgeting.Follows (MessagingController.handleValid engine delivery eventTypeName event)
      (.start (some event.eventId)) Budget.Ends := by
  unfold MessagingController.handleValid RetryAttemptTrackerService.recordAttempt
  simp only [Async.bind_eq]
  apply @Protocol.Follows.bind _ _ _ _ _ _ _ _ _ _ (fun after outcome =>
    ∀ given, outcome = .ok given → after.Tracks event.eventId given)
  · apply @Protocol.Follows.bind _ _ _ _ _ _ _ _ _ _ (fun after outcome =>
      ∀ rows, outcome = .ok rows → after.Tracks event.eventId (rows.head?.getD 1))
    · refine budgeted_request ⟨rfl,rfl⟩ ?_
      intro outcome rows answered
      subst answered
      exact ⟨rfl,rfl,rfl,rfl,rfl⟩
    · intro after rows tracks given same
      obtain rfl := Except.ok.inj same
      exact tracks rows rfl
    · intro after error _ given impossible
      cases impossible
  · intro after durableAttemptCount learned
    have tracks := learned durableAttemptCount rfl
    apply budgeted_free rfl ?_ (fun _ => trivial)
    intro received
    apply budgeted_free rfl ?_ (fun _ => trivial)
    intro validated
    apply (processEvent_budgeted event eventTypeName tracks).tryCatch
    · intro later done kept failed
      rw [kept.succeeding] at failed
      cases failed
    · intro later error kept
      exact handleFailure_budgeted engine delivery eventTypeName event.correlationId error kept
  · intro after error _
    trivial

theorem rejectInvalid_budgeted (data : Option Json) (eventTypeName : String)
    (errors : List ValidationFailureDetail) (unasked : budget.asked = false) :
    budgeting.Follows (MessagingController.rejectInvalid data eventTypeName errors) budget Budget.Ends := by
  have ends : ∀ after : Budget, after.asked = false → ∀ outcome, after.Ends outcome := by
    intro after unasked outcome
    cases outcome with
    | error error => trivial
    | ok done =>
      intro _ asked
      rw [unasked] at asked
      cases asked
  unfold MessagingController.rejectInvalid
  simp only [Async.bind_eq]
  apply @Protocol.Follows.bind _ _ _ _ _ _ _ _ _ _ (fun after _ => after.asked = false)
  · refine budgeted_request trivial ?_
    intro outcome
    cases outcome <;> exact unasked
  · intro after done unasked
    apply budgeted_free rfl ?_ (fun _ => trivial)
    intro published
    exact budgeted_last rfl (ends after unasked)
  · intro after error _
    trivial

theorem handleMessage_budgeted {settings : Settings} {body : Body} {headers : Headers} {data : Option Json}
    (dispatched : dispatch body = some (.handleMessage,data)) :
    budgeting.Follows (MessagingController.handleMessage settings.engine settings.zod ⟨body,headers,data⟩)
      (.start (eventIdOf settings body headers)) Budget.Ends := by
  unfold MessagingController.handleMessage
  dsimp only
  split
  next errors validated => exact rejectInvalid_budgeted data _ errors rfl
  next event validated =>
    have valid : eventIdOf settings body headers = some event.eventId := by
      simp [eventIdOf,dispatched,validated]
    split
    next issues _ => trivial
    next normalized upcast =>
      rw [valid,← normalize_eventId upcast]
      exact handleValid_budgeted settings.engine ⟨body,headers,data⟩ _ normalized

end MessagingPlatform.Consumer
