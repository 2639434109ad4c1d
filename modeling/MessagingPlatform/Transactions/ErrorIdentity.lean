import MessagingPlatform.Consumer.DeadLetters
import MessagingPlatform.Transactions.Runs

/-! Which error leaves an envelope. A step fails, a rollback and a release follow on the same
connection, and a failure of theirs replaces the cause, also for the handler that classifies it. -/
namespace MessagingPlatform.Transactions
open Consumer (IdempotencyInput OutboxEventInput)
open Consumer.OutboxTransactionService (IdempotentRunResult)
open Gateway (GatewayOutboxEventInput)
open OutboxTransactionService

variable {M : Manager} {Value : Type}

section failures
variable {State : Type} (backend : Backend M State)

/-- A step of a body rejects: the callback, an insert of an outbox row, or the commit. -/
inductive Breaks {Inserted : Type} (work : Work M Thrown Value) (inserts : Program M Thrown Inserted) (start : State)
    (error : Thrown) (failed : State) : Prop where
  | work (rejects : work.onManager.evaluate backend start = (.error error,failed))
  | insert {value : Value} {worked : State} (works : work.onManager.evaluate backend start = (.ok value,worked))
      (rejects : inserts.evaluate backend worked = (.error error,failed))
  | commit {value : Value} {inserted : Inserted} {worked written : State}
      (works : work.onManager.evaluate backend start = (.ok value,worked))
      (inserts : inserts.evaluate backend worked = (.ok inserted,written))
      (rejects : backend written .commitTransaction = (.error error,failed))

/-- The insert into the ledger may reject as well, and not for a duplicate. -/
inductive BreaksOnce (idempotency : IdempotencyInput) (work : Work M Thrown Value) (events : List OutboxEventInput)
    (start : State) (error : Thrown) (failed : State) : Prop where
  | ledger (refuses : Refused backend idempotency start error failed)
      (other : Consumer.isUniqueViolation error = false)
  | body {inserted : State} (enters : Enters backend idempotency start inserted)
      (breaks : Breaks backend work (insertOutboxEvents events) inserted error failed)

/-- The clean-up after a failure leaves its error alone: the release does and, where it resolves, the
rollback does. -/
def Spared (error : Thrown) (failed : State) : Prop :=
  (∀ last, released backend failed = .error last → last = error) ∧
    (released backend failed = .ok () → ∀ last, rolledBack backend failed = .error last → last = error)

variable {work : Work M Thrown Value} {events : List OutboxEventInput} {idempotency : IdempotencyInput}
  {start opened failed : State} {error : Thrown}

theorem Breaks.evaluate_body {Inserted Result : Type} {inserts : Program M Thrown Inserted}
    (breaks : Breaks backend work inserts start error failed) (result : Value → Inserted → Result) :
    (work.onManager.bind (fun value => inserts.bind (fun inserted =>
      (request .commitTransaction).bind (fun _ => .resolve (result value inserted))))).evaluate backend start =
        (.error error,failed) := by
  cases breaks with
  | work rejects => rw [Async.evaluate_bind,rejects]
  | insert works rejects =>
    rw [Async.evaluate_bind,works]
    dsimp only
    rw [Async.evaluate_bind,rejects]
  | commit works inserts rejects =>
    rw [Async.evaluate_bind,works]
    dsimp only
    rw [Async.evaluate_bind,inserts]
    dsimp only
    rw [Async.evaluate_bind,request,Async.evaluate_call,rejects]

theorem BreaksOnce.evaluate_body (breaks : BreaksOnce backend idempotency work events start error failed) :
    (writeOnce Consumer.isUniqueViolation idempotency work events).evaluate backend start =
      (.error error,failed) := by
  cases breaks with
  | ledger refuses other =>
    rw [writeOnce_refused backend idempotency work events refuses,if_neg (by simp [other])]
    rfl
  | body enters breaks =>
    have written : (write work events).evaluate backend _ = (.error error,failed) :=
      breaks.evaluate_body backend (fun value _ => value)
    rw [writeOnce_entered backend idempotency work events enters,Async.evaluate_bind,written]

theorem rejects_iff {body : Program M Thrown Value} (opens : Opens backend start opened)
    (fails : body.evaluate backend opened = (.error error,failed)) :
    ((inTransaction body).evaluate backend start).1 = .error error ↔ Spared backend error failed := by
  rw [evaluate_failed backend opens fails]
  constructor
  · intro same
    exact (Async.escaped_eq_iff error _ _).mp (Except.error.inj same)
  · intro spared
    exact congrArg Except.error ((Async.escaped_eq_iff error _ _).mpr spared)

theorem duplicate_iff {refused : State} (opens : Opens backend start opened)
    (refuses : Refused backend idempotency opened error refused)
    (violation : Consumer.isUniqueViolation error = true) :
    ((runIdempotentWithOutboxEvents Consumer.isUniqueViolation idempotency work events).evaluate backend start).1 =
        .ok .duplicate ↔ rolledBack backend refused = .ok () ∧ released backend refused = .ok () := by
  have body := writeOnce_refused backend idempotency work events refuses
  rw [if_pos violation,Async.evaluate_bind,request,Async.evaluate_call] at body
  unfold runIdempotentWithOutboxEvents rolledBack released
  rcases undone : backend refused .rollbackTransaction with ⟨outcome,after⟩
  rw [undone] at body
  cases outcome with
  | ok done =>
    have resolves : (writeOnce Consumer.isUniqueViolation idempotency work events).evaluate backend opened =
        (.ok .duplicate,after) := body
    rw [evaluate_inTransaction backend opens,Async.evaluate_guarded_ok backend resolves,request,Async.evaluate_call]
    rcases backend after .release with ⟨outcome,last⟩
    cases outcome <;> simp
  | error last =>
    have rejects : (writeOnce Consumer.isUniqueViolation idempotency work events).evaluate backend opened =
        (.error last,after) := body
    rw [evaluate_failed backend opens rejects]
    simp

end failures

section handler
open Consumer (Delivery Settings)
variable (environment : Consumer.Environment) (settings : Settings) (delivery : Delivery)
  (event : CreateMessageEventV2)

def backendOf : Backend messages (List Consumer.Event) := fun log call =>
  ((environment.answer log call.consumer).1.map call.consumerReply,(environment.answer log call.consumer).2)

def idempotencyOf (eventTypeName : String) : IdempotencyInput :=
  ⟨event.eventId,eventTypeName,some event.correlationId⟩

def saving : Work messages Thrown Consumer.Message :=
  Async.call (Consumer.MessagingService.newMessage ⟨some event.payload.subject,some event.payload.content⟩)

def announced : List OutboxEventInput :=
  [Consumer.MessagingService.messagePersisted ⟨some event.payload.subject,some event.payload.content⟩
    (some event.correlationId)]

def reception (eventTypeName : String) : Consumer.Program Int := do
  let durableAttemptCount ← Consumer.RetryAttemptTrackerService.recordAttempt event.eventId
  Consumer.request (.lifecycle ⟨.received,eventTypeName,event.eventId,event.correlationId,none⟩)
  Consumer.request (.lifecycle ⟨.validated,eventTypeName,event.eventId,event.correlationId,none⟩)
  pure durableAttemptCount

def eventTypeNameOf : String :=
  (Consumer.MessagingController.schemaVersion settings.engine delivery.headers delivery.data).eventTypeName

structure Tries (durableAttemptCount : Int) (tried : List Consumer.Event) : Prop where
  dispatched : Consumer.dispatch delivery.content = some (.handleMessage,delivery.data)
  carries : Consumer.eventOf settings delivery.content delivery.headers = some event
  received : (reception event (eventTypeNameOf settings delivery)).evaluate environment.answer [] =
    (.ok durableAttemptCount,tried)

theorem processEvent_evaluate (eventTypeName : String) (log : List Consumer.Event) :
    (Consumer.MessagingService.handleMessageCreationIdempotent ⟨some event.payload.subject,some event.payload.content⟩
      event.eventId eventTypeName (some event.correlationId)).evaluate environment.answer log =
      (runIdempotentWithOutboxEvents Consumer.isUniqueViolation (idempotencyOf event eventTypeName) (saving event)
        (announced event)).evaluate (backendOf environment) log := by
  have onConsumer := runIdempotentWithOutboxEvents_onConsumer (idempotencyOf event eventTypeName) (saving event)
    (announced event)
  have saved : (saving event).translate Consumer.Request.saveMessage (fun _ message => message) =
      Consumer.request (.saveMessage _) := (Async.translate_call _).trans (Async.bind_resolve _)
  rw [saved] at onConsumer
  unfold Consumer.MessagingService.handleMessageCreationIdempotent
  rw [← idempotencyOf,← announced,← onConsumer]
  exact Async.evaluate_translate environment.answer _ log

variable {environment : Consumer.Environment} {settings : Settings} {delivery : Delivery}
  {event : CreateMessageEventV2} {durableAttemptCount : Int} {tried opened failed : List Consumer.Event}
  {error : Thrown}

/-- From its try block on the handler is the processing of the event and the catch block. -/
theorem Tries.evaluate (tries : Tries environment settings delivery event durableAttemptCount tried) :
    (Consumer.MessagingController.handleMessage settings.engine settings.zod delivery).evaluate environment.answer [] =
      (Async.tryCatch
        (Consumer.MessagingController.processEvent event (eventTypeNameOf settings delivery))
        (Consumer.MessagingController.handleFailure settings.engine delivery (eventTypeNameOf settings delivery)
          event.correlationId durableAttemptCount)).evaluate environment.answer tried := by
  obtain ⟨dispatched,carries,received⟩ := tries
  have valid : Consumer.MessagingController.handleMessage settings.engine settings.zod delivery =
      Consumer.MessagingController.handleValid settings.engine delivery (eventTypeNameOf settings delivery) event := by
    unfold Consumer.eventOf at carries
    unfold Consumer.MessagingController.handleMessage
    rw [dispatched] at carries
    cases validated : Consumer.MessagingController.validate settings.engine settings.zod delivery.headers
        delivery.data with
    | error errors =>
      simp only [validated] at carries
      cases carries
    | ok contract =>
      cases upcast : Consumer.MessagingController.normalize contract with
      | invalid issues kept =>
        simp only [validated,upcast] at carries
        cases carries
      | valid processed =>
        simp only [validated,upcast] at carries ⊢
        obtain rfl := Option.some.inj carries
        rfl
  have received_first : Consumer.MessagingController.handleValid settings.engine delivery
      (eventTypeNameOf settings delivery) event = (reception event (eventTypeNameOf settings delivery)).bind
        (fun durableAttemptCount => Async.tryCatch
          (Consumer.MessagingController.processEvent event (eventTypeNameOf settings delivery))
          (Consumer.MessagingController.handleFailure settings.engine delivery (eventTypeNameOf settings delivery)
            event.correlationId durableAttemptCount)) := by
    unfold Consumer.MessagingController.handleValid reception
    simp only [Async.bind_eq,Async.pure_eq,Async.bind_assoc]
    rfl
  rw [valid,received_first,Async.evaluate_bind,received]

def caught (environment : Consumer.Environment) (error : Thrown) (failed : List Consumer.Event) : Thrown :=
  Async.escaped error (rolledBack (backendOf environment) failed) (released (backendOf environment) failed)

theorem processEvent_failed (eventTypeName : String) (opens : Opens (backendOf environment) tried opened)
    (breaks : BreaksOnce (backendOf environment) (idempotencyOf event eventTypeName) (saving event) (announced event)
      opened error failed) :
    (Consumer.MessagingController.processEvent event eventTypeName).evaluate environment.answer tried =
      (.error (caught environment error failed),cleaned (backendOf environment) failed) := by
  have failing := evaluate_failed (backendOf environment) opens (breaks.evaluate_body (backendOf environment))
  unfold Consumer.MessagingController.processEvent
  rw [Async.bind_eq,Async.evaluate_bind,processEvent_evaluate,runIdempotentWithOutboxEvents,failing]
  rfl

theorem handleMessage_failed (tries : Tries environment settings delivery event durableAttemptCount tried)
    (opens : Opens (backendOf environment) tried opened)
    (breaks : BreaksOnce (backendOf environment) (idempotencyOf event (eventTypeNameOf settings delivery))
      (saving event) (announced event) opened error failed) :
    (Consumer.MessagingController.handleMessage settings.engine settings.zod delivery).evaluate environment.answer [] =
      (Consumer.MessagingController.handleFailure settings.engine delivery (eventTypeNameOf settings delivery)
        event.correlationId durableAttemptCount (caught environment error failed)).evaluate environment.answer
          (cleaned (backendOf environment) failed) := by
  rw [tries.evaluate,Async.evaluate_tryCatch,processEvent_failed _ opens breaks]

abbrev Keeps {Value : Type} (program : Consumer.Program Value) : Prop :=
  program.Asks (fun request => ∀ outcome effective, Consumer.Event.deadLetters ⟨request,outcome,effective⟩ = false)

theorem keeps_request {request : Consumer.Request}
    (keeps : ∀ outcome effective, Consumer.Event.deadLetters ⟨request,outcome,effective⟩ = false) :
    Keeps (Consumer.request request) := Async.Asks.call keeps

theorem publishToRetry_keeps (engine : Engine) (payload : Body) (headers : Headers) (attemptNumber : JsNumber)
    (correlationId : String) :
    Keeps (Consumer.RetryPublisherService.publishToRetry engine payload headers attemptNumber correlationId) := by
  apply (Consumer.publishToRetry_republishes engine payload headers attemptNumber correlationId).mono
  intro request republishes outcome effective
  cases request with
  | nack requeue => cases republishes
  | _ => rfl

theorem scheduleRetry_keeps (engine : Engine) (now : Int) (correlationId : String) :
    Keeps (Consumer.MessagingController.scheduleRetry engine delivery error now correlationId) := by
  apply Async.Asks.bind
  · apply Async.Asks.tryCatch
    · apply (publishToRetry_keeps _ _ _ _ _).bind
      intro published
      trivial
    · intro refused
      apply (keeps_request (fun _ _ => rfl)).bind
      intro returned
      trivial
  · intro scheduled
    cases scheduled with
    | false => exact trivial
    | true => exact (keeps_request (fun _ _ => rfl)).bind (fun _ => keeps_request (fun _ _ => rfl))

theorem handleFailure_keeps (engine : Engine) (eventTypeName correlationId : String)
    (transient : Consumer.classifyError error = .transient) (left : durableAttemptCount < RetryConfig.maxAttempts) :
    Keeps (Consumer.MessagingController.handleFailure engine delivery eventTypeName correlationId durableAttemptCount
      error) := by
  apply (keeps_request (fun _ _ => rfl)).bind
  intro now
  apply (keeps_request (fun _ _ => rfl)).bind
  intro counted
  rw [if_pos ⟨transient,left⟩]
  exact scheduleRetry_keeps engine now correlationId

theorem processEvent_keeps (eventTypeName : String) :
    Keeps (Consumer.MessagingController.processEvent event eventTypeName) := by
  apply (Consumer.Bookkeeping.processEvent event eventTypeName).mono
  intro request processes outcome effective
  cases request with
  | nack requeue => cases processes
  | _ => rfl

/-- A transient error that the catch block gets to see is not dead-lettered while attempts are left. -/
theorem handleMessage_keeps (tries : Tries environment settings delivery event durableAttemptCount tried)
    (opens : Opens (backendOf environment) tried opened)
    (breaks : BreaksOnce (backendOf environment) (idempotencyOf event (eventTypeNameOf settings delivery))
      (saving event) (announced event) opened error failed)
    (transient : Consumer.classifyError (caught environment error failed) = .transient)
    (left : durableAttemptCount < RetryConfig.maxAttempts) :
    ∀ made ∈ environment.log (Consumer.MessagingController.handleMessage settings.engine settings.zod delivery),
      made.deadLetters = false := by
  intro made member
  unfold Consumer.Environment.log at member
  rw [handleMessage_failed tries opens breaks] at member
  rcases environment.asked (handleFailure_keeps _ _ _ transient left) member with earlier | kept
  · have processed := congrArg Prod.snd (processEvent_failed (eventTypeNameOf settings delivery) opens breaks)
    have within : made ∈ ((Consumer.MessagingController.processEvent event
        (eventTypeNameOf settings delivery)).evaluate environment.answer tried).2 := by
      rw [processed]
      exact earlier
    rcases environment.asked (processEvent_keeps _) within with first | kept
    · have receives : Keeps (reception event (eventTypeNameOf settings delivery)) := by
        have recorded : Keeps (Consumer.RetryAttemptTrackerService.recordAttempt event.eventId) :=
          Async.Asks.bind (keeps_request (fun _ _ => rfl)) (fun _ => trivial)
        apply recorded.bind
        intro count
        apply (keeps_request (fun _ _ => rfl)).bind
        intro received
        exact (keeps_request (fun _ _ => rfl)).bind (fun _ => trivial)
      have inside : made ∈ ((reception event (eventTypeNameOf settings delivery)).evaluate environment.answer
          []).2 := by
        rw [tries.received]
        exact first
      rcases environment.asked receives inside with impossible | kept
      · cases impossible
      · exact kept _ _
    · exact kept _ _
  · exact kept _ _

/-- Any other error is, once the failure has been counted. -/
theorem handleMessage_deadLetters (tries : Tries environment settings delivery event durableAttemptCount tried)
    (opens : Opens (backendOf environment) tried opened)
    (breaks : BreaksOnce (backendOf environment) (idempotencyOf event (eventTypeNameOf settings delivery))
      (saving event) (announced event) opened error failed) {now : Int} {dated counted : List Consumer.Event}
    (clock : environment.answer (cleaned (backendOf environment) failed) .newDate = (.ok now,dated))
    (counts : environment.answer dated (.count (.messagesFailed (eventTypeNameOf settings delivery)
      (Consumer.classifyError (caught environment error failed)))) = (.ok (),counted))
    (keeps : ∀ made ∈ environment.log
      (Consumer.MessagingController.handleMessage settings.engine settings.zod delivery), made.deadLetters = false) :
    Consumer.classifyError (caught environment error failed) = .transient ∧
      durableAttemptCount < RetryConfig.maxAttempts := by
  apply Classical.byContradiction
  intro refused
  unfold Consumer.Environment.log at keeps
  rw [handleMessage_failed tries opens breaks] at keeps
  unfold Consumer.MessagingController.handleFailure at keeps
  simp only [Async.bind_eq] at keeps
  rw [Async.evaluate_bind,Consumer.request,Async.evaluate_call,clock] at keeps
  dsimp only at keeps
  rw [Async.evaluate_bind,Consumer.request,Async.evaluate_call,counts] at keeps
  dsimp only at keeps
  rw [if_neg refused,Consumer.request,Async.evaluate_call] at keeps
  have nacked := keeps _ (List.mem_append_right counted (List.mem_singleton_self _))
  cases nacked

end handler

section samples
open Consumer (brokenConnection sampleConsumer sampleDelivery)

def sampleReceived : CreateMessageEventV2 :=
  (Consumer.eventOf sampleConsumer sampleDelivery.content sampleDelivery.headers).get (by decide +kernel)

def sampleRow : IdempotencyInput := idempotencyOf sampleReceived (eventTypeNameOf sampleConsumer sampleDelivery)

def connectionTerminated : Thrown := ⟨.error,"Error","Connection terminated",some "ECONNRESET",none⟩

/-- What a rollback rejects with on a connection that broke; it has no code. -/
def notQueryable : Thrown :=
  ⟨.error,"Error","Client has encountered a connection error and is not queryable",none,none⟩

def breaking (rollback : Except Thrown Unit) : Consumer.Environment := fun log request =>
  match request with
  | .rollbackTransaction => (rollback,false)
  | request => brokenConnection log request

theorem breaking_breaks (rollback : Except Thrown Unit) (log : List Consumer.Event) : ∃ opened failed,
    Opens (backendOf (breaking rollback)) log opened ∧ BreaksOnce (backendOf (breaking rollback)) sampleRow
      (saving sampleReceived) (announced sampleReceived) opened connectionTerminated failed :=
  ⟨_,_,rfl,.body rfl (.work rfl)⟩

end samples

/-- A step of an envelope fails. The envelope rejects with the error of that step if and only if the
clean-up spares it, and it tells a duplicate as one if and only if the clean-up resolves. What the handler
classifies is the error that left the envelope: the cause, if and only if the clean-up spares it. -/
theorem error_identity_iff (M : Manager) (Value State : Type) (backend : Backend M State) (start opened : State)
    (opens : Opens backend start opened) (work : Work M Thrown Value) (events : List OutboxEventInput)
    (idempotency : IdempotencyInput) (event : GatewayOutboxEventInput) :
    (∀ error failed, Breaks backend work (insertOutboxEvents events) opened error failed →
      (((runWithOutboxEvents work events).evaluate backend start).1 = .error error ↔
        Spared backend error failed)) ∧
    (∀ error failed, Breaks backend work (GatewayOutboxTransactionService.insertOutboxEvent event) opened error
        failed →
      (((GatewayOutboxTransactionService.runWithOutboxEvent work event).evaluate backend start).1 = .error error ↔
        Spared backend error failed)) ∧
    (∀ error failed, BreaksOnce backend idempotency work events opened error failed →
      (((runIdempotentWithOutboxEvents Consumer.isUniqueViolation idempotency work events).evaluate backend start).1 =
        .error error ↔ Spared backend error failed)) ∧
    (∀ error refused, Refused backend idempotency opened error refused → Consumer.isUniqueViolation error = true →
      (((runIdempotentWithOutboxEvents Consumer.isUniqueViolation idempotency work events).evaluate backend start).1 =
        .ok .duplicate ↔ rolledBack backend refused = .ok () ∧ released backend refused = .ok ())) ∧
    (∀ (environment : Consumer.Environment) (settings : Consumer.Settings) (delivery : Consumer.Delivery)
      (received : CreateMessageEventV2) (durableAttemptCount : Int) (tried entered failed : List Consumer.Event)
      (error : Thrown), Tries environment settings delivery received durableAttemptCount tried →
      Opens (backendOf environment) tried entered →
      BreaksOnce (backendOf environment) (idempotencyOf received (eventTypeNameOf settings delivery))
        (saving received) (announced received) entered error failed →
      let handled := Consumer.MessagingController.handleMessage settings.engine settings.zod delivery
      let cause := caught environment error failed
      let after := cleaned (backendOf environment) failed
      handled.evaluate environment.answer [] =
        (Consumer.MessagingController.handleFailure settings.engine delivery (eventTypeNameOf settings delivery)
          received.correlationId durableAttemptCount cause).evaluate environment.answer after ∧
      (cause = error ↔ Spared (backendOf environment) error failed) ∧
      (Consumer.classifyError cause = .transient → durableAttemptCount < RetryConfig.maxAttempts →
        ∀ made ∈ environment.log handled, made.deadLetters = false) ∧
      (∀ now dated counted, environment.answer after .newDate = (.ok now,dated) →
        environment.answer dated (.count (.messagesFailed (eventTypeNameOf settings delivery)
          (Consumer.classifyError cause))) = (.ok (),counted) →
        (∀ made ∈ environment.log handled, made.deadLetters = false) →
        Consumer.classifyError cause = .transient ∧ durableAttemptCount < RetryConfig.maxAttempts)) := by
  refine ⟨?_,?_,?_,?_,?_⟩
  · intro error failed breaks
    exact rejects_iff backend opens (breaks.evaluate_body backend (fun value _ => value))
  · intro error failed breaks
    exact rejects_iff backend opens (breaks.evaluate_body backend (fun _ row => row))
  · intro error failed breaks
    exact rejects_iff backend opens (breaks.evaluate_body backend)
  · intro error refused refuses violation
    exact duplicate_iff backend opens refuses violation
  · intro environment settings delivery received durableAttemptCount tried entered failed error tries begins breaks
    refine ⟨handleMessage_failed tries begins breaks,Async.escaped_eq_iff error _ _,?_,?_⟩
    · intro transient left
      exact handleMessage_keeps tries begins breaks transient left
    · intro now dated counted clock counts keeps
      exact handleMessage_deadLetters tries begins breaks clock counts keeps

/-- The callback fails and the clean-up resolves. -/
theorem broken_connection_rejects :
    ((runIdempotentWithOutboxEvents Consumer.isUniqueViolation sampleRow (saving sampleReceived)
      (announced sampleReceived)).evaluate (backendOf (breaking (.ok ()))) []).1 = .error connectionTerminated := by
  obtain ⟨opened,failed,opens,breaks⟩ := breaking_breaks (.ok ()) []
  obtain ⟨_,_,rejects,_⟩ := error_identity_iff messages Consumer.Message (List Consumer.Event)
    (backendOf (breaking (.ok ()))) [] opened opens (saving sampleReceived) (announced sampleReceived) sampleRow
    ⟨"MessageCreated",.null,none,none,none⟩
  apply (rejects _ _ breaks).mpr
  constructor
  · intro last rejected
    cases rejected
  · intro resolved last rejected
    cases rejected

/-- The message cannot be saved because the connection broke, and so the rollback fails as well: the
cause is lost, and the message is dead-lettered on its first attempt. -/
theorem rollback_replaces_cause :
    (¬ ∀ (environment : Consumer.Environment) (idempotency : IdempotencyInput)
      (work : Work messages Thrown Consumer.Message) (events : List OutboxEventInput)
      (opened failed : List Consumer.Event) (error : Thrown), Opens (backendOf environment) [] opened →
      BreaksOnce (backendOf environment) idempotency work events opened error failed →
      ((runIdempotentWithOutboxEvents Consumer.isUniqueViolation idempotency work events).evaluate
        (backendOf environment) []).1 = .error error) ∧
    ¬ ∀ (environment : Consumer.Environment) (settings : Consumer.Settings) (delivery : Consumer.Delivery)
      (received : CreateMessageEventV2) (durableAttemptCount : Int) (tried entered failed : List Consumer.Event)
      (error : Thrown), Tries environment settings delivery received durableAttemptCount tried →
      Opens (backendOf environment) tried entered →
      BreaksOnce (backendOf environment) (idempotencyOf received (eventTypeNameOf settings delivery))
        (saving received) (announced received) entered error failed →
      Consumer.classifyError error = .transient → durableAttemptCount < RetryConfig.maxAttempts →
      ∀ made ∈ environment.log (Consumer.MessagingController.handleMessage settings.engine settings.zod delivery),
        made.deadLetters = false := by
  constructor
  · intro rejects
    obtain ⟨opened,failed,opens,breaks⟩ := breaking_breaks (.error notQueryable) []
    have rejected := rejects (breaking (.error notQueryable)) sampleRow (saving sampleReceived)
      (announced sampleReceived) opened failed connectionTerminated opens breaks
    obtain ⟨_,spared⟩ := (rejects_iff _ opens (breaks.evaluate_body _)).mp rejected
    have same : notQueryable = connectionTerminated := spared rfl notQueryable rfl
    cases congrArg Thrown.code same
  · intro keeps
    have tries : Tries (breaking (.error notQueryable)) Consumer.sampleConsumer Consumer.sampleDelivery sampleReceived
        1 _ := ⟨rfl,(Option.some_get _).symm,rfl⟩
    obtain ⟨opened,failed,opens,breaks⟩ := breaking_breaks (.error notQueryable) _
    have kept := keeps (breaking (.error notQueryable)) Consumer.sampleConsumer Consumer.sampleDelivery sampleReceived
      1 _ opened failed connectionTerminated tries opens breaks (by decide) (by decide)
    obtain ⟨transient,_⟩ := handleMessage_deadLetters tries opens breaks rfl rfl kept
    cases transient

end MessagingPlatform.Transactions
