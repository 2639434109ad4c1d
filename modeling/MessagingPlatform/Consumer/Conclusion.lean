import MessagingPlatform.Consumer.Requests

/-! One delivery of `handleMessage` in an arbitrary environment: what becomes of a delivery whose
transaction committed, or that was found to be a duplicate. -/
namespace MessagingPlatform.Consumer
open Schema OutboxTransactionService

/-- A call that was made, how its promise settled, and whether it took effect. -/
structure Event (Text : Type := String) where
  request : Request Text
  outcome : Except Thrown (Reply request)
  effective : Bool

/-- Settles every call, knowing all that happened before, and says whether a call that rejects
took effect all the same. -/
abbrev Environment (Text : Type := String) :=
  List (Event Text) → (request : Request Text) → Except Thrown (Reply request) × Bool

section texts
variable {Text : Type} (environment : Environment Text)

def Environment.answer (log : List (Event Text)) (request : Request Text) :
    Except Thrown (Reply request) × List (Event Text) :=
  let answered := environment log request
  (answered.1,log ++ [⟨request,answered.1,answered.1.isOk || answered.2⟩])

def Environment.log {Value : Type} (program : TextProgram Text Value) : List (Event Text) :=
  (program.evaluate environment.answer []).2

end texts

namespace Event

def concludes : Event → Bool
  | ⟨.commitTransaction,_,effective⟩ => effective
  | ⟨.saveProcessedEvent _,.error error,_⟩ => isUniqueViolation error
  | _ => false

def fails : Event → Bool
  | ⟨.commitTransaction,.error _,_⟩ | ⟨.rollbackTransaction,.error _,_⟩ | ⟨.release,.error _,_⟩
  | ⟨.clearAttempts _,.error _,_⟩ | ⟨.ack,.error _,_⟩
  | ⟨.count (.messagesProcessed _ _),.error _,_⟩ => true
  | ⟨.lifecycle record,.error _,_⟩ => record.stage == .persisted
  | _ => false

def acks : Event → Bool
  | ⟨.ack,.ok _,_⟩ => true
  | _ => false

/-- The delivery goes to the DLQ, or a retry copy of it is published. -/
def diverts : Event → Bool
  | ⟨.nack requeue,_,_⟩ => !requeue
  | ⟨.publish _ _,_,_⟩ => true
  | _ => false

end Event

structure Progress where
  concluded : Bool
  failed : Bool
  acked : Bool
  diverted : Bool

namespace Progress

def of (log : List Event) : Progress :=
  ⟨log.any Event.concludes,log.any Event.fails,log.any Event.acks,log.any Event.diverts⟩

def add (progress : Progress) (event : Event) : Progress :=
  ⟨progress.concluded || event.concludes,progress.failed || event.fails,
    progress.acked || event.acks,progress.diverted || event.diverts⟩

theorem of_append (log : List Event) (event : Event) : of (log ++ [event]) = (of log).add event := by
  simp [of,add]

def start : Progress := ⟨false,false,false,false⟩

def concluding : Progress := ⟨true,false,false,false⟩

def Excused (progress : Progress) : Prop := progress.concluded = true → progress.failed = true

def Troubled (progress : Progress) : Prop :=
  progress.Excused ∧ progress.acked = false ∧ progress.diverted = false

theorem Excused.add {progress : Progress} (excused : progress.Excused) {event : Event}
    (unconcluding : event.concludes = false) : (progress.add event).Excused := by
  intro concluded
  simp only [Progress.add,unconcluding,Bool.or_false] at concluded
  exact Bool.or_eq_true_iff.mpr (.inl (excused concluded))

theorem Troubled.add {progress : Progress} (troubled : progress.Troubled) {event : Event}
    (unconcluding : event.concludes = false) (silent : event.acks = false) (kept : event.diverts = false) :
    (progress.add event).Troubled := by
  obtain ⟨excused,unacked,undiverted⟩ := troubled
  exact ⟨excused.add unconcluding,by simp [Progress.add,unacked,silent],by simp [Progress.add,undiverted,kept]⟩

theorem troubled_start : start.Troubled := ⟨nofun,rfl,rfl⟩

end Progress

open Progress

def observing : Protocol Progress Thrown Request Reply where
  allows _ _ := True
  moves before request outcome after := ∃ effective,
    after = before.add ⟨request,outcome,outcome.isOk || effective⟩

def Request.neutral : Request → Bool
  | .lifecycle record => record.stage != .persisted
  | .nack requeue => requeue
  | .clearAttempts _ | .saveProcessedEvent _ | .commitTransaction | .rollbackTransaction | .release
  | .publish _ _ | .ack | .count (.messagesProcessed _ _) => false
  | .recordAttempt _ | .connect | .startTransaction | .saveMessage _ | .saveOutboxEvent _ | .newDate
  | .randomUUID | .inject | .getChannel | .waitForConfirms _ | .count _ => true

theorem add_neutral {request : Request} (neutral : request.neutral) (progress : Progress)
    (outcome : Except Thrown (Reply request)) (effective : Bool) :
    progress.add ⟨request,outcome,effective⟩ = progress := by
  obtain ⟨concluded,failed,acked,diverted⟩ := progress
  cases request with
  | lifecycle record =>
    have stage : (record.stage == .persisted) = false := by
      simpa [Request.neutral] using neutral
    cases outcome <;> simp [add,Event.concludes,Event.fails,Event.acks,Event.diverts,stage]
  | nack requeue =>
    have requeued : requeue = true := neutral
    simp [add,Event.concludes,Event.fails,Event.acks,Event.diverts,requeued]
  | clearAttempts _ | saveProcessedEvent _ | commitTransaction | rollbackTransaction | release
  | publish _ _ | ack => cases neutral
  | recordAttempt _ | connect | startTransaction | saveMessage _ | saveOutboxEvent _ | newDate
  | randomUUID | inject | getChannel | waitForConfirms _ =>
    simp [add,Event.concludes,Event.fails,Event.acks,Event.diverts]
  | count metric =>
    cases metric with
    | messagesProcessed _ _ => cases neutral
    | messagesFailed _ _ | retryCount _ =>
      simp [add,Event.concludes,Event.fails,Event.acks,Event.diverts]

theorem follows_request {request : Request} {progress : Progress}
    {post : Progress → Except Thrown (Reply request) → Prop}
    (answered : ∀ outcome effective,
      post (progress.add ⟨request,outcome,outcome.isOk || effective⟩) outcome) :
    observing.Follows (Consumer.request request) progress post := by
  refine Protocol.Follows.call trivial ?_
  intro outcome after moved
  obtain ⟨effective,rfl⟩ := moved
  exact answered outcome effective

theorem follows_neutral {Value : Type} {request : Request} {progress : Progress}
    {f : Reply request → Program Value} {post : Progress → Except Thrown Value → Prop}
    (neutral : request.neutral) (resolved : ∀ value, observing.Follows (f value) progress post)
    (rejected : ∀ error, post progress (.error error)) :
    observing.Follows ((Consumer.request request).bind f) progress post := by
  refine Protocol.Follows.bind (M := fun after _ => after = progress) ?_ ?_ ?_
  · exact follows_request (fun outcome effective => add_neutral neutral progress outcome _)
  · intro after value same
    subst same
    exact resolved value
  · intro after error same
    subst same
    exact rejected error

def Kept {Value : Type} (after : Progress) : Except Thrown Value → Prop
  | .ok _ => after = concluding
  | .error _ => after.Troubled

theorem troubled_failed : Troubled ⟨true,true,false,false⟩ := ⟨fun _ => rfl,rfl,rfl⟩

theorem follows_step {Value : Type} {request : Request} {f : Reply request → Program Value}
    {post : Progress → Except Thrown Value → Prop}
    (quiet : ∀ value effective, concluding.add ⟨request,.ok value,effective⟩ = concluding)
    (failing : ∀ error effective, concluding.add ⟨request,.error error,effective⟩ = ⟨true,true,false,false⟩)
    (resolved : ∀ value, observing.Follows (f value) concluding post)
    (rejected : ∀ after error, Troubled after → post after (.error error)) :
    observing.Follows ((Consumer.request request).bind f) concluding post := by
  refine Protocol.Follows.bind (M := Kept) ?_ ?_ (fun after error troubled => rejected after error troubled)
  · refine follows_request ?_
    intro outcome effective
    cases outcome with
    | ok value => exact quiet value _
    | error error =>
      have same := failing error (false || effective)
      exact same ▸ troubled_failed
  · intro after value same
    have here : after = concluding := same
    subst here
    exact resolved value

/-- The insert is the conclusion of a duplicate alone. -/
theorem insertLedgerRow_follows (idempotency : IdempotencyInput) :
    observing.Follows (insertLedgerRow idempotency) start (fun after outcome => match outcome with
      | .ok true => after = start
      | .ok false => after = concluding
      | .error _ => after.Troubled) := by
  unfold insertLedgerRow
  refine Protocol.Follows.tryCatch (M := fun after outcome => match outcome with
    | .ok inserted => inserted = true ∧ after = start
    | .error error => after = ⟨isUniqueViolation error,false,false,false⟩) ?_ ?_ ?_
  · refine Protocol.Follows.bind (M := fun after outcome => match outcome with
      | .ok _ => after = start
      | .error error => after = ⟨isUniqueViolation error,false,false,false⟩) ?_ ?_ ?_
    · refine follows_request ?_
      intro outcome effective
      cases outcome with
      | ok value => rfl
      | error error => simp [add,start,Event.concludes,Event.fails,Event.acks,Event.diverts]
    · intro after value same
      exact ⟨rfl,same⟩
    · intro after error same
      exact same
  · intro after inserted same
    obtain ⟨rfl,same⟩ := same
    exact same
  · intro after error same
    have here : after = ⟨isUniqueViolation error,false,false,false⟩ := same
    subst here
    by_cases violation : isUniqueViolation error = true
    · rw [if_pos violation,violation]
      exact follows_step (fun _ _ => rfl) (fun _ _ => rfl) (fun _ => rfl) (fun _ _ troubled => troubled)
    · rw [if_neg violation,eq_false_of_ne_true violation]
      exact troubled_start

theorem insertOutboxEvents_follows (events : List OutboxEventInput) (progress : Progress) :
    observing.Follows (insertOutboxEvents events) progress (fun after _ => after = progress) := by
  apply (insertOutboxEvents_inserts events).still
  · intro request inserts
    trivial
  · intro request outcome after inserts moved
    obtain ⟨effective,rfl⟩ := moved
    apply add_neutral
    cases request <;> first | rfl | cases inserts

theorem follows_troubled {request : Request} {progress : Progress} (troubled : progress.Troubled)
    (unconcluding : ∀ outcome effective, Event.concludes ⟨request,outcome,effective⟩ = false)
    (silent : ∀ outcome effective, Event.acks ⟨request,outcome,effective⟩ = false)
    (kept : ∀ outcome effective, Event.diverts ⟨request,outcome,effective⟩ = false) :
    observing.Follows (Consumer.request request) progress (fun after _ => after.Troubled) :=
  follows_request (fun outcome _ =>
    troubled.add (unconcluding outcome _) (silent outcome _) (kept outcome _))

/-- A commit that resolves is the last call, and an error after the conclusion has a failed step for an
excuse. -/
theorem runInTransaction_follows {Value : Type} (idempotency : IdempotencyInput)
    {work : Program Value} (events : List OutboxEventInput)
    (neutral : observing.Follows work start (fun after _ => after = start)) :
    observing.Follows (runInTransaction idempotency work events) start Kept := by
  unfold runInTransaction
  simp only [Async.bind_eq]
  refine (insertLedgerRow_follows idempotency).bind ?_ (fun _ _ troubled => troubled)
  intro after inserted same
  cases inserted with
  | false => exact same
  | true =>
    have here : after = start := same
    subst here
    simp only [if_true]
    refine neutral.bind ?_ ?_
    · intro after result same
      subst same
      refine (insertOutboxEvents_follows events start).bind ?_ ?_
      · intro after done same
        subst same
        refine Protocol.Follows.bind (M := Kept) ?_ (fun _ _ same => same) (fun _ _ troubled => troubled)
        refine follows_request ?_
        intro outcome effective
        cases outcome with
        | ok done => rfl
        | error error => exact ⟨fun _ => rfl,rfl,rfl⟩
      · intro after error same
        subst same
        exact troubled_start
    · intro after error same
      subst same
      exact troubled_start

theorem runIdempotentWithOutboxEvents_follows {Value : Type} (idempotency : IdempotencyInput)
    {work : Program Value} (events : List OutboxEventInput)
    (neutral : observing.Follows work start (fun after _ => after = start)) :
    observing.Follows (runIdempotentWithOutboxEvents idempotency work events) start Kept := by
  unfold runIdempotentWithOutboxEvents
  simp only [Async.bind_eq]
  refine follows_neutral rfl ?_ (fun _ => troubled_start)
  intro connected
  refine follows_neutral rfl ?_ (fun _ => troubled_start)
  intro started
  refine Protocol.Follows.tryFinally (M := Kept) ?_ ?_
  · refine (runInTransaction_follows idempotency events neutral).tryCatch (fun _ _ same => same) ?_
    intro after error troubled
    refine (follows_troubled troubled (fun _ _ => rfl) (fun _ _ => rfl) (fun _ _ => rfl)).bind ?_ ?_
    · intro after rolledBack troubled
      exact troubled
    · intro after error troubled
      exact troubled
  · intro after outcome kept
    cases outcome with
    | ok value =>
      have here : after = concluding := kept
      subst here
      refine follows_request ?_
      intro outcome effective
      cases outcome with
      | ok released => rfl
      | error error => exact troubled_failed
    | error error =>
      refine (follows_troubled kept (fun _ _ => rfl) (fun _ _ => rfl) (fun _ _ => rfl)).mono ?_
      intro after released troubled
      cases released <;> exact troubled

def acknowledged : Progress := ⟨true,false,true,false⟩

/-- The try block acks what it concludes, or hands the delivery to the catch block with an excuse. -/
theorem processEvent_follows (event : CreateMessageEventV2) (eventTypeName : String) :
    observing.Follows (MessagingController.processEvent event eventTypeName) start
      (fun after outcome => match outcome with
        | .ok _ => after = acknowledged
        | .error _ => after.Troubled) := by
  have acked : observing.Follows (Consumer.request .ack) concluding (fun after outcome => match outcome with
      | .ok _ => after = acknowledged
      | .error _ => after.Troubled) := by
    refine follows_request ?_
    intro outcome effective
    cases outcome with
    | ok done => rfl
    | error error => exact troubled_failed
  unfold MessagingController.processEvent MessagingService.handleMessageCreationIdempotent
  simp only [Async.bind_eq]
  refine (runIdempotentWithOutboxEvents_follows _ _ ?_).bind ?_ (fun _ _ troubled => troubled)
  · exact follows_request (fun outcome effective => add_neutral rfl start outcome _)
  · intro after result same
    have here : after = concluding := same
    subst here
    cases result with
    | duplicate =>
      refine follows_step (fun _ _ => rfl) (fun _ _ => rfl) ?_ (fun _ _ troubled => troubled)
      intro counted
      exact follows_step (fun _ _ => rfl) (fun _ _ => rfl) (fun _ => acked) (fun _ _ troubled => troubled)
    | processed message =>
      refine follows_step (fun _ _ => rfl) (fun _ _ => rfl) ?_ (fun _ _ troubled => troubled)
      intro counted
      refine follows_step (fun _ _ => rfl) (fun _ _ => rfl) ?_ (fun _ _ troubled => troubled)
      intro published
      exact follows_step (fun _ _ => rfl) (fun _ _ => rfl) (fun _ => acked) (fun _ _ troubled => troubled)

/-- A concluded delivery that went through the catch block, or never reached its conclusion. -/
def Missed (progress : Progress) : Prop :=
  progress.Excused ∧ (progress.acked = true → progress.diverted = true)

theorem Missed.of_troubled {progress : Progress} (troubled : progress.Troubled) : Missed progress :=
  ⟨troubled.1,fun acked => absurd (acked.symm.trans troubled.2.1) (by simp)⟩

variable (engine : Engine)

theorem publishToRetry_follows (payload : Body) (headers : Headers) (attemptNumber : JsNumber)
    (correlationId : String) {progress : Progress} (troubled : progress.Troubled) :
    observing.Follows (RetryPublisherService.publishToRetry engine payload headers attemptNumber
      correlationId) progress (fun after outcome => after.Excused ∧ match outcome with
        | .ok _ => after.diverted = true
        | .error _ => after.acked = false) := by
  obtain ⟨excused,unacked,undiverted⟩ := troubled
  unfold RetryPublisherService.publishToRetry
  simp only [Async.bind_eq]
  refine follows_neutral rfl ?_ (fun _ => ⟨excused,unacked⟩)
  intro channel
  refine follows_neutral rfl ?_ (fun _ => ⟨excused,unacked⟩)
  intro carrier
  refine Protocol.Follows.bind (M := fun after _ => after.Excused ∧ after.acked = false ∧
    after.diverted = true) ?_ ?_ ?_
  · refine follows_request ?_
    intro outcome effective
    exact ⟨excused.add rfl,by simp [add,unacked,Event.acks],by simp [add,Event.diverts]⟩
  · intro after published done
    obtain ⟨excused,unacked,diverted⟩ := done
    cases published with
    | true =>
      refine follows_request ?_
      intro outcome effective
      rw [add_neutral rfl]
      cases outcome with
      | ok done => exact ⟨excused,diverted⟩
      | error error => exact ⟨excused,unacked⟩
    | false => exact ⟨excused,unacked⟩
  · intro after error done
    exact ⟨done.1,done.2.1⟩

/-- The original is acked only once its retry copy was published, and nothing is concluded. -/
theorem scheduleRetry_follows (delivery : Delivery) (error : Thrown) (now : Int) (correlationId : String)
    {progress : Progress} (troubled : progress.Troubled) :
    observing.Follows (MessagingController.scheduleRetry engine delivery error now correlationId)
      progress (fun after _ => Missed after) := by
  unfold MessagingController.scheduleRetry
  simp only [Async.bind_eq]
  refine Protocol.Follows.bind (M := fun after outcome => after.Excused ∧ match outcome with
    | .ok true => after.diverted = true
    | .ok false | .error _ => after.acked = false) ?_ ?_ ?_
  · refine Protocol.Follows.tryCatch (M := fun after outcome => after.Excused ∧ match outcome with
      | .ok scheduled => scheduled = true ∧ after.diverted = true
      | .error _ => after.acked = false) ?_ ?_ ?_
    · refine (publishToRetry_follows engine _ _ _ _ troubled).bind ?_ (fun _ _ done => done)
      intro after published done
      exact ⟨done.1,rfl,done.2⟩
    · intro after scheduled done
      obtain ⟨excused,rfl,diverted⟩ := done
      exact ⟨excused,diverted⟩
    · intro after error done
      exact follows_neutral rfl (fun _ => done) (fun _ => done)
  · intro after scheduled done
    obtain ⟨excused,settled⟩ := done
    cases scheduled with
    | false => exact ⟨excused,fun acked => absurd (acked.symm.trans settled) (by simp)⟩
    | true =>
      have diverted : after.diverted = true := settled
      refine Protocol.Follows.bind (M := fun after _ => after.Excused ∧ after.diverted = true) ?_ ?_ ?_
      · refine follows_request ?_
        intro outcome effective
        exact ⟨excused.add rfl,by simp [add,diverted]⟩
      · intro later done kept
        refine follows_request ?_
        intro outcome effective
        rw [add_neutral rfl]
        exact ⟨kept.1,fun _ => kept.2⟩
      · intro later error kept
        exact ⟨kept.1,fun _ => kept.2⟩
  · intro after error done
    exact ⟨done.1,fun acked => absurd (acked.symm.trans done.2) (by simp)⟩

theorem handleFailure_follows (delivery : Delivery) (eventTypeName correlationId : String)
    (durableAttemptCount : Int) (error : Thrown) {progress : Progress} (troubled : progress.Troubled) :
    observing.Follows (MessagingController.handleFailure engine delivery eventTypeName correlationId
      durableAttemptCount error) progress (fun after _ => Missed after) := by
  unfold MessagingController.handleFailure
  simp only [Async.bind_eq]
  refine follows_neutral rfl ?_ (fun _ => .of_troubled troubled)
  intro now
  refine follows_neutral rfl ?_ (fun _ => .of_troubled troubled)
  intro counted
  split
  next => exact scheduleRetry_follows engine delivery error now correlationId troubled
  next =>
    refine follows_request ?_
    intro outcome effective
    exact ⟨troubled.1.add rfl,fun _ => by simp [add,Event.diverts]⟩

/-- How the handler leaves a delivery: acked after its conclusion, or missed. -/
def Handled (progress : Progress) : Prop := progress = acknowledged ∨ Missed progress

theorem handleValid_follows (delivery : Delivery) (eventTypeName : String) (event : CreateMessageEventV2) :
    observing.Follows (MessagingController.handleValid engine delivery eventTypeName event) start
      (fun after _ => Handled after) := by
  have unconcluded : Handled start := .inr (.of_troubled troubled_start)
  unfold MessagingController.handleValid RetryAttemptTrackerService.recordAttempt
  simp only [Async.bind_eq]
  refine Protocol.Follows.bind (M := fun after _ => after = start) ?_ ?_ ?_
  · exact follows_neutral rfl (fun _ => rfl) (fun _ => rfl)
  · intro after durableAttemptCount same
    subst same
    refine follows_neutral rfl ?_ (fun _ => unconcluded)
    intro received
    refine follows_neutral rfl ?_ (fun _ => unconcluded)
    intro validated
    refine (processEvent_follows event eventTypeName).tryCatch (fun _ _ same => .inl same) ?_
    intro after error troubled
    refine (handleFailure_follows engine delivery eventTypeName event.correlationId durableAttemptCount
      error troubled).mono ?_
    intro after outcome missed
    exact .inr missed
  · intro after error same
    subst same
    exact unconcluded

theorem rejectInvalid_follows (data : Option Json) (eventTypeName : String)
    (errors : List ValidationFailureDetail) :
    observing.Follows (MessagingController.rejectInvalid data eventTypeName errors) start
      (fun after _ => after.concluded = false) := by
  unfold MessagingController.rejectInvalid
  simp only [Async.bind_eq]
  refine follows_neutral rfl ?_ (fun _ => rfl)
  intro counted
  refine follows_neutral rfl ?_ (fun _ => rfl)
  intro published
  exact follows_request (fun _ _ => rfl)

/-- A concluded delivery is acked and stays where it is, unless a step after its conclusion failed. -/
theorem handleMessage_follows (zod : Library) (delivery : Delivery) :
    observing.Follows (MessagingController.handleMessage engine zod delivery) start
      (fun after _ => after.concluded = true → Handled after) := by
  unfold MessagingController.handleMessage
  dsimp only
  split
  next errors _ =>
    refine (rejectInvalid_follows delivery.data _ errors).mono ?_
    intro after outcome unconcluded concluded
    exact absurd (concluded.symm.trans unconcluded) (by simp)
  next event _ =>
    split
    next issues _ => exact fun concluded => nomatch concluded
    next event _ => exact (handleValid_follows engine delivery _ event).mono (fun _ _ handled _ => handled)

/-- A delivery that is concluded is acked, and neither dead-lettered nor retried, exactly when
every step after its conclusion resolves: the answer to the commit or the rollback of the
duplicate, the release, the counter, the lifecycle record, `clearAttempts` and the ack itself. -/
theorem concluded_acked_iff (engine : Engine) (zod : Library) (delivery : Delivery)
    (environment : Environment) :
    let log := environment.log (MessagingController.handleMessage engine zod delivery)
    log.any Event.concludes = true →
      ((log.any Event.acks = true ∧ log.any Event.diverts = false) ↔ log.any Event.fails = false) := by
  intro log concluded
  have moved : ∀ before request, observing.moves (.of before) request
      (environment.answer before request).1 (.of (environment.answer before request).2) :=
    fun before request => ⟨(environment before request).2,Progress.of_append before _⟩
  have follows : observing.Follows (MessagingController.handleMessage engine zod delivery) (.of [])
    (fun after _ => after.concluded = true → Handled after) := handleMessage_follows engine zod delivery
  have handled : (Progress.of log).concluded = true → Handled (Progress.of log) :=
    follows.evaluate environment.answer Progress.of moved
  rcases handled concluded with same | ⟨excused,missed⟩
  · have acked : log.any Event.acks = true := congrArg Progress.acked same
    have kept : log.any Event.diverts = false := congrArg Progress.diverted same
    have resolved : log.any Event.fails = false := congrArg Progress.failed same
    exact iff_of_true ⟨acked,kept⟩ resolved
  · have failed : log.any Event.fails = true := excused concluded
    refine iff_of_false ?_ (fun resolved => absurd (failed.symm.trans resolved) (by simp))
    intro settled
    obtain ⟨acked,kept⟩ := settled
    exact absurd ((missed acked).symm.trans kept) (by simp)

def sampleReply {Text : Type} : (request : Request Text) → Reply request
  | .recordAttempt _ => [1]
  | .saveMessage row => ⟨1,row.title,row.content,row.sender⟩
  | .newDate => 0
  | .randomUUID => "u-1"
  | .inject => []
  | .getChannel => 0
  | .publish _ _ => true
  | .lifecycle _ | .clearAttempts _ | .connect | .startTransaction | .saveProcessedEvent _
  | .saveOutboxEvent _ | .commitTransaction | .rollbackTransaction | .release | .waitForConfirms _
  | .ack | .nack _ | .count _ => ()

def sampleEnvironment (rejects : Request → Bool) : Environment := fun _ request =>
  if rejects request then (.error (.ofMessage "Connection terminated"),false)
  else (.ok (sampleReply request),true)

def savingMessage : Request → Bool
  | .saveMessage _ => true
  | _ => false

set_option maxRecDepth 4000 in
theorem committed_delivery_acked :
    let log := (sampleEnvironment (fun _ => false)).log
      (MessagingController.handleMessage sampleEngine sampleLibrary sampleDelivery)
    log.any Event.concludes = true ∧ log.any Event.acks = true ∧ log.any Event.diverts = false := by
  intro log
  have concluded : log.any Event.concludes = true := by decide
  exact ⟨concluded,(concluded_acked_iff sampleEngine sampleLibrary sampleDelivery
    (sampleEnvironment (fun _ => false)) concluded).mpr (by decide)⟩

def clearingAttempts : Request → Bool
  | .clearAttempts _ => true
  | _ => false

set_option maxRecDepth 4000 in
/-- The transaction commits, `clearAttempts` rejects, and the delivery is dead-lettered. -/
theorem committed_delivery_dead_lettered : ¬ ∀ engine zod delivery (environment : Environment),
    let log := environment.log (MessagingController.handleMessage engine zod delivery)
    log.any Event.concludes = true → log.any Event.acks = true ∧ log.any Event.diverts = false := by
  intro acked
  have settled := acked sampleEngine sampleLibrary sampleDelivery (sampleEnvironment clearingAttempts)
    (by decide)
  exact absurd settled.2 (by decide)

end MessagingPlatform.Consumer
