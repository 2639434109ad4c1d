import MessagingPlatform.Contracts.RoundTrip
import MessagingPlatform.Consumer.Conclusion

/-! How many times a delivery is settled. The calls in front of the try block are not caught, and
neither is the failure counter of the catch block. -/
namespace MessagingPlatform.Consumer
open Schema OutboxTransactionService

namespace Event

def settles : Event → Bool
  | ⟨.ack,_,_⟩ | ⟨.nack _,_,_⟩ => true
  | _ => false

def rejectsUncaught : Event → Bool
  | ⟨.recordAttempt _,.error _,_⟩ | ⟨.count (.messagesFailed _ _),.error _,_⟩ => true
  | ⟨.lifecycle record,.error _,_⟩ => record.stage != .persisted
  | _ => false

end Event

def Request.steady : Request → Bool
  | .ack | .nack _ | .newDate => true
  | _ => false

structure Tally where
  settlements : Nat
  uncaught : Bool

namespace Tally

def of (log : List Event) : Tally := ⟨log.countP Event.settles,log.any Event.rejectsUncaught⟩

def add (tally : Tally) (event : Event) : Tally :=
  ⟨tally.settlements + (if event.settles then 1 else 0),tally.uncaught || event.rejectsUncaught⟩

theorem of_append (log : List Event) (event : Event) : of (log ++ [event]) = (of log).add event := by
  by_cases settles : event.settles = true <;> simp [of,add,settles]

def pending : Tally := ⟨0,false⟩

def settled : Tally := ⟨1,false⟩

/-- An uncaught call ended the handler before it could settle the delivery. -/
def stuck : Tally := ⟨0,true⟩

def Ended (tally : Tally) : Prop := tally = settled ∨ tally = stuck

end Tally

open Tally

/-- Any answer may come, except that steady calls do not throw. -/
def tallying : Protocol Tally Thrown Request Reply where
  allows _ _ := True
  moves before request outcome after := (request.steady = true → outcome.isOk = true) ∧
    ∃ effective, after = before.add ⟨request,outcome,effective⟩

def Request.untallied : Request → Bool
  | .ack | .nack _ | .recordAttempt _ | .count (.messagesFailed _ _) => false
  | .lifecycle record => record.stage == .persisted
  | _ => true

theorem add_untallied {request : Request} (untallied : request.untallied = true) (tally : Tally)
    (outcome : Except Thrown (Reply request)) (effective : Bool) :
    tally.add ⟨request,outcome,effective⟩ = tally := by
  obtain ⟨settlements,uncaught⟩ := tally
  cases request with
  | ack | nack _ | recordAttempt _ => cases untallied
  | lifecycle record =>
    have persisted : record.stage = .persisted := beq_iff_eq.mp untallied
    cases outcome <;> simp [Tally.add,Event.settles,Event.rejectsUncaught,persisted]
  | count metric =>
    cases metric with
    | messagesFailed _ _ => cases untallied
    | messagesProcessed _ _ | retryCount _ => simp [Tally.add,Event.settles,Event.rejectsUncaught]
  | _ => simp [Tally.add,Event.settles,Event.rejectsUncaught]

def Quiet {Value : Type} (program : Program Value) : Prop :=
  ∀ tally, tallying.Follows program tally (fun after _ => after = tally)

theorem Quiet.of_asks {Value : Type} {program : Program Value}
    (asks : program.Asks (fun request => request.untallied = true)) : Quiet program := by
  intro tally
  apply asks.still
  · intro request untallied
    trivial
  · intro request outcome after untallied moved
    obtain ⟨_,effective,rfl⟩ := moved
    exact add_untallied untallied tally outcome effective

theorem Quiet.request {request : Request} (untallied : request.untallied = true) :
    Quiet (Consumer.request request) := .of_asks (Async.Asks.call untallied)

theorem runIdempotentWithOutboxEvents_quiet {Value : Type} (idempotency : IdempotencyInput)
    {work : Program Value} (events : List OutboxEventInput) (works : Enveloped work) :
    Quiet (runIdempotentWithOutboxEvents idempotency work events) := by
  apply Quiet.of_asks
  apply (Enveloped.runIdempotentWithOutboxEvents idempotency events works).mono
  intro request enveloped
  cases request <;> first | rfl | cases enveloped

theorem publishToRetry_quiet (engine : Engine) (payload : Body) (headers : Headers)
    (attemptNumber : JsNumber) (correlationId : String) :
    Quiet (RetryPublisherService.publishToRetry engine payload headers attemptNumber correlationId) := by
  apply Quiet.of_asks
  apply (publishToRetry_republishes engine payload headers attemptNumber correlationId).mono
  intro request republishes
  cases request <;> first | rfl | cases republishes

theorem settles_once {request : Request} (settling : request = .ack ∨ ∃ requeue, request = .nack requeue) :
    tallying.Follows (Consumer.request request) pending (fun after outcome =>
      after = settled ∧ outcome.isOk = true) := by
  refine Protocol.Follows.call trivial ?_
  intro outcome after moved
  obtain ⟨steady,effective,rfl⟩ := moved
  rcases settling with rfl | ⟨requeue,rfl⟩
  · exact ⟨rfl,steady rfl⟩
  · exact ⟨rfl,steady rfl⟩

def Survives {Value : Type} (after : Tally) : Except Thrown Value → Prop
  | .ok _ => after = pending
  | .error _ => after = stuck

theorem uncaught_call {request : Request}
    (resolves : ∀ value effective, pending.add ⟨request,.ok value,effective⟩ = pending)
    (rejects : ∀ error effective, pending.add ⟨request,.error error,effective⟩ = stuck) :
    tallying.Follows (Consumer.request request) pending Survives := by
  refine Protocol.Follows.call trivial ?_
  intro outcome after moved
  obtain ⟨_,effective,rfl⟩ := moved
  cases outcome with
  | ok value => exact resolves value effective
  | error error => exact rejects error effective

theorem survives_bind {Value : Type} {program : Program Value} {f : Value → Program Unit}
    (first : tallying.Follows program pending Survives)
    (continues : ∀ value, tallying.Follows (f value) pending (fun after _ => after.Ended)) :
    tallying.Follows (program.bind f) pending (fun after _ => after.Ended) := by
  refine first.bind ?_ (fun _ _ same => .inr same)
  intro after value same
  have here : after = pending := same
  exact here ▸ continues value

theorem processEvent_tally (event : CreateMessageEventV2) (eventTypeName : String) :
    tallying.Follows (MessagingController.processEvent event eventTypeName) pending
      (fun after outcome => match outcome with
        | .ok _ => after = settled
        | .error _ => after = pending) := by
  have acked : tallying.Follows (Consumer.request .ack) pending (fun after outcome => match outcome with
      | .ok _ => after = settled
      | .error _ => after = pending) := by
    refine (settles_once (.inl rfl)).mono ?_
    intro after outcome once
    cases outcome with
    | ok done => exact once.1
    | error error => cases once.2
  have quietly : ∀ {Value : Type} {program : Program Value} {f : Value → Program Unit}, Quiet program →
      (∀ value, tallying.Follows (f value) pending (fun after outcome => match outcome with
        | .ok _ => after = settled
        | .error _ => after = pending)) →
      tallying.Follows (program.bind f) pending (fun after outcome => match outcome with
        | .ok _ => after = settled
        | .error _ => after = pending) := by
    intro Value program f quiet continues
    exact Protocol.Still.before (quiet pending) continues (fun _ => rfl)
  unfold MessagingController.processEvent MessagingService.handleMessageCreationIdempotent
  simp only [Async.bind_eq]
  refine quietly (runIdempotentWithOutboxEvents_quiet _ _ (.request rfl)) ?_
  intro result
  cases result with
  | duplicate =>
    refine quietly (.request rfl) ?_
    intro counted
    exact quietly (.request rfl) (fun _ => acked)
  | processed message =>
    refine quietly (.request rfl) ?_
    intro counted
    refine quietly (.request rfl) ?_
    intro published
    exact quietly (.request rfl) (fun _ => acked)

variable (engine : Engine)

/-- A retry copy is followed by an ack, and a copy that could not be scheduled by a requeue. -/
theorem scheduleRetry_tally (delivery : Delivery) (error : Thrown) (now : Int) (correlationId : String) :
    tallying.Follows (MessagingController.scheduleRetry engine delivery error now correlationId) pending
      (fun after _ => after = settled) := by
  unfold MessagingController.scheduleRetry
  simp only [Async.bind_eq]
  refine Protocol.Follows.bind (M := fun after outcome =>
    (outcome = .ok true → after = pending) ∧ (outcome ≠ .ok true → after = settled)) ?_ ?_ ?_
  · refine Protocol.Follows.tryCatch (M := fun after outcome => after = pending ∧
      ∀ scheduled, outcome = .ok scheduled → scheduled = true) ?_ ?_ ?_
    · refine (publishToRetry_quiet engine _ _ _ _ pending).bind ?_ ?_
      · intro after published same
        exact ⟨same,fun _ resolved => (Except.ok.inj resolved).symm⟩
      · intro after error same
        exact ⟨same,fun _ resolved => by cases resolved⟩
    · intro after scheduled done
      obtain ⟨same,resolved⟩ := done
      rw [resolved scheduled rfl]
      exact ⟨fun _ => same,fun failed => absurd rfl failed⟩
    · intro after error done
      have here : after = pending := done.1
      subst here
      apply (settles_once (.inr ⟨true,rfl⟩)).bind
      · intro later requeued once
        exact ⟨fun impossible => absurd impossible (by simp),fun _ => once.1⟩
      · intro later thrown once
        exact ⟨fun impossible => absurd impossible (by simp),fun _ => once.1⟩
  · intro after scheduled done
    obtain ⟨unsettled,requeued⟩ := done
    cases scheduled with
    | false => exact requeued (by simp)
    | true =>
      have here : after = pending := unsettled rfl
      subst here
      refine (settles_once (.inl rfl)).bind ?_ (fun _ _ once => once.1)
      intro after done once
      exact (Quiet.request rfl after).mono (fun _ _ same => same.trans once.1)
  · intro after error done
    exact done.2 (by simp)

theorem handleFailure_tally (delivery : Delivery) (eventTypeName correlationId : String)
    (durableAttemptCount : Int) (error : Thrown) :
    tallying.Follows (MessagingController.handleFailure engine delivery eventTypeName correlationId
      durableAttemptCount error) pending (fun after _ => after.Ended) := by
  unfold MessagingController.handleFailure
  simp only [Async.bind_eq]
  refine Protocol.Follows.bind (M := fun after outcome => after = pending ∧ outcome.isOk = true) ?_ ?_ ?_
  · refine Protocol.Follows.call trivial ?_
    intro outcome after moved
    obtain ⟨steady,effective,rfl⟩ := moved
    exact ⟨rfl,steady rfl⟩
  · intro after now same
    obtain ⟨here,_⟩ := same
    subst here
    refine survives_bind (uncaught_call (fun _ _ => rfl) (fun _ _ => rfl)) ?_
    intro counted
    split
    next => exact (scheduleRetry_tally engine delivery error now correlationId).mono (fun _ _ same => .inl same)
    next => exact (settles_once (.inr ⟨false,rfl⟩)).mono (fun _ _ once => .inl once.1)
  · intro after error thrown
    cases thrown.2

theorem handleValid_tally (delivery : Delivery) (eventTypeName : String) (event : CreateMessageEventV2) :
    tallying.Follows (MessagingController.handleValid engine delivery eventTypeName event) pending
      (fun after _ => after.Ended) := by
  have tracked : tallying.Follows (RetryAttemptTrackerService.recordAttempt event.eventId) pending Survives :=
    (uncaught_call (fun _ _ => rfl) (fun _ _ => rfl)).bind (fun _ _ same => same) (fun _ _ same => same)
  unfold MessagingController.handleValid
  simp only [Async.bind_eq]
  refine survives_bind tracked ?_
  intro durableAttemptCount
  refine survives_bind (uncaught_call (fun _ _ => rfl) (fun _ _ => rfl)) ?_
  intro received
  refine survives_bind (uncaught_call (fun _ _ => rfl) (fun _ _ => rfl)) ?_
  intro validated
  refine (processEvent_tally event eventTypeName).tryCatch (fun _ _ same => .inl same) ?_
  intro after error same
  have here : after = pending := same
  subst here
  exact handleFailure_tally engine delivery eventTypeName event.correlationId durableAttemptCount error

theorem rejectInvalid_tally (data : Option Json) (eventTypeName : String)
    (errors : List ValidationFailureDetail) :
    tallying.Follows (MessagingController.rejectInvalid data eventTypeName errors) pending
      (fun after _ => after.Ended) := by
  unfold MessagingController.rejectInvalid
  simp only [Async.bind_eq]
  refine survives_bind (uncaught_call (fun _ _ => rfl) (fun _ _ => rfl)) ?_
  intro counted
  refine survives_bind (uncaught_call (fun _ _ => rfl) (fun _ _ => rfl)) ?_
  intro published
  exact (settles_once (.inl rfl)).mono (fun _ _ once => .inl once.1)

/-- What `handleMessage` validates is never refused by the upcast. -/
theorem normalize_valid {zod : Library} {headers : Headers} {data : Option Json} {event : ContractEvent}
    (accepted : MessagingController.validate engine zod headers data = .ok event) :
    ∃ processed, MessagingController.normalize event = .valid processed := by
  unfold MessagingController.validate at accepted
  cases version : MessagingController.schemaVersion engine headers data with
  | v1 =>
    rw [version] at accepted
    obtain ⟨v1,rfl,valid⟩ := validateEvent_v1.mp accepted
    exact ⟨_,upcast_valid valid⟩
  | v2 =>
    rw [version] at accepted
    obtain ⟨v2,rfl,valid⟩ := validateEvent_v2.mp accepted
    exact ⟨v2,rfl⟩

theorem handleMessage_tally (zod : Library) (delivery : Delivery) :
    tallying.Follows (MessagingController.handleMessage engine zod delivery) pending
      (fun after _ => after.Ended) := by
  unfold MessagingController.handleMessage
  dsimp only
  split
  next errors _ => exact rejectInvalid_tally delivery.data _ errors
  next event accepted =>
    obtain ⟨processed,upcast⟩ := normalize_valid engine accepted
    rw [upcast]
    exact handleValid_tally engine delivery _ processed

/-- A delivery is settled exactly once precisely when every call that nothing catches resolves:
the counting of the attempt, the lifecycle records in front of the try block and the failure
counter. -/
theorem settled_once_iff (engine : Engine) (zod : Library) (delivery : Delivery) (environment : Environment)
    (steady : ∀ log request, request.steady = true → (environment log request).1.isOk = true) :
    let log := environment.log (MessagingController.handleMessage engine zod delivery)
    log.countP Event.settles = 1 ↔ log.any Event.rejectsUncaught = false := by
  intro log
  have moved : ∀ before request, tallying.moves (.of before) request
      (environment.answer before request).1 (.of (environment.answer before request).2) := by
    intro before request
    exact ⟨steady before request,_,Tally.of_append before _⟩
  have follows : tallying.Follows (MessagingController.handleMessage engine zod delivery) (.of [])
    (fun after _ => after.Ended) := handleMessage_tally engine zod delivery
  have ended : (Tally.of log).Ended := follows.evaluate environment.answer Tally.of moved
  rcases ended with same | same
  · have once : log.countP Event.settles = 1 := congrArg Tally.settlements same
    have caught : log.any Event.rejectsUncaught = false := congrArg Tally.uncaught same
    exact iff_of_true once caught
  · have never : log.countP Event.settles = 0 := congrArg Tally.settlements same
    have uncaught : log.any Event.rejectsUncaught = true := congrArg Tally.uncaught same
    rw [never,uncaught]
    decide

set_option maxRecDepth 4000 in
theorem unsaved_delivery_settled :
    ((sampleEnvironment savingMessage).log
      (MessagingController.handleMessage sampleEngine sampleLibrary sampleDelivery)).countP Event.settles = 1 := by
  refine (settled_once_iff sampleEngine sampleLibrary sampleDelivery (sampleEnvironment savingMessage) ?_).mpr
    (by decide)
  intro log request steady
  cases request <;> first | rfl | cases steady

def recordingAttempt : Request → Bool
  | .recordAttempt _ => true
  | _ => false

set_option maxRecDepth 4000 in
/-- The attempt cannot be recorded, and the delivery is neither acked nor nacked. -/
theorem unrecorded_delivery_unsettled : ¬ ∀ engine zod delivery (environment : Environment),
    (∀ log request, request.steady = true → (environment log request).1.isOk = true) →
    (environment.log (MessagingController.handleMessage engine zod delivery)).countP Event.settles = 1 := by
  intro once
  have steady : ∀ log request, request.steady = true →
      ((sampleEnvironment recordingAttempt) log request).1.isOk = true := by
    intro log request steady
    cases request <;> first | rfl | cases steady
  exact absurd (once sampleEngine sampleLibrary sampleDelivery _ steady) (by decide)

end MessagingPlatform.Consumer
