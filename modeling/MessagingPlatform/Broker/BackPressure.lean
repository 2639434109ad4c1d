import MessagingPlatform.Consumer.Conclusion
import MessagingPlatform.Outbox.Batch

/-! Publishes that are given up although their message is on its way. `channel.publish` buffers its
message whether it returns true or false, and only throws when it does not. What the broker does with
a message that it receives is left open: `taken` says which ones it enqueues. -/
namespace MessagingPlatform

namespace Consumer

namespace Event

def requeues : Event → Bool
  | ⟨.nack true,_,_⟩ => true
  | _ => false

def enqueues (taken : Publication → Bool) : Event → Bool
  | ⟨.publish _ publication,.ok _,_⟩ => taken publication
  | _ => false

/-- A publish that buffered its message is treated as a failure. -/
def disowns : Event → Bool
  | ⟨.publish _ _,.ok accepted,_⟩ => !accepted
  | ⟨.waitForConfirms _,.error _,_⟩ => true
  | _ => false

end Event

structure Copies where
  requeued : Nat
  enqueued : Nat
  disowned : Bool

namespace Copies

variable (taken : Publication → Bool)

def of (log : List Event) : Copies :=
  ⟨log.countP Event.requeues,log.countP (Event.enqueues taken),log.any Event.disowns⟩

def add (copies : Copies) (event : Event) : Copies :=
  ⟨copies.requeued + (if event.requeues then 1 else 0),
    copies.enqueued + (if event.enqueues taken then 1 else 0),copies.disowned || event.disowns⟩

theorem of_append (log : List Event) (event : Event) : of taken (log ++ [event]) = (of taken log).add taken event := by
  simp [of,add,List.countP_cons]

def start : Copies := ⟨0,0,false⟩

/-- No copy of a delivery that was given back is enqueued, unless its publish was disowned. -/
def Told (copies : Copies) : Prop :=
  (copies.requeued = 0 ∧ (copies.enqueued = 0 ∨ copies.disowned = false)) ∨
  (copies.requeued = 1 ∧ (copies.enqueued = 0 ∨ copies.enqueued = 1 ∧ copies.disowned = true))

def GivenUp (copies : Copies) : Prop :=
  copies.requeued = 0 ∧ (copies.enqueued = 0 ∨ copies.enqueued = 1 ∧ copies.disowned = true)

def Written (copies : Copies) : Except Thrown Bool → Prop
  | .ok accepted => copies.requeued = 0 ∧ copies.enqueued ≤ 1 ∧ copies.disowned = !accepted
  | .error _ => copies.requeued = 0 ∧ copies.enqueued = 0

def Scheduled {Value : Type} (copies : Copies) : Except Thrown Value → Prop
  | .ok _ => copies.requeued = 0 ∧ copies.disowned = false
  | .error _ => copies.GivenUp

def Settled (copies : Copies) : Except Thrown Bool → Prop
  | .ok true => copies.requeued = 0 ∧ copies.disowned = false
  | .ok false | .error _ => copies.Told

end Copies

open Copies

def copying (taken : Publication → Bool) : Protocol Copies Thrown Request Reply where
  allows _ _ := True
  moves before request outcome after := ∃ effective, after = before.add taken ⟨request,outcome,effective⟩

def Request.copyless : Request → Bool
  | .nack requeue => !requeue
  | .publish _ _ | .waitForConfirms _ => false
  | _ => true

theorem add_copyless {taken : Publication → Bool} {request : Request} (copyless : request.copyless = true)
    (copies : Copies) (outcome : Except Thrown (Reply request)) (effective : Bool) :
    copies.add taken ⟨request,outcome,effective⟩ = copies := by
  cases request with
  | nack requeue =>
    cases requeue with
    | true => cases copyless
    | false => simp [add,Event.requeues,Event.enqueues,Event.disowns]
  | publish _ _ | waitForConfirms _ => cases copyless
  | _ => simp [add,Event.requeues,Event.enqueues,Event.disowns]

theorem processes_copyless {request : Request} (processes : request.processes = true) : request.copyless = true := by
  cases request with
  | nack _ | publish _ _ | waitForConfirms _ => cases processes
  | _ => rfl

section programs
variable {taken : Publication → Bool}

theorem copied_request {request : Request} (copyless : request.copyless = true) (copies : Copies) :
    (copying taken).Still (Consumer.request request) copies := by
  refine Protocol.Follows.call trivial ?_
  intro outcome after moved
  obtain ⟨effective,rfl⟩ := moved
  exact add_copyless copyless copies outcome effective

theorem processEvent_copied (event : CreateMessageEventV2) (eventTypeName : String) (copies : Copies) :
    (copying taken).Still (MessagingController.processEvent event eventTypeName) copies := by
  refine Async.Asks.still (Bookkeeping.processEvent event eventTypeName) (fun _ _ => trivial) ?_
  intro request outcome after processes moved
  obtain ⟨effective,rfl⟩ := moved
  exact add_copyless (processes_copyless processes) copies outcome effective

theorem publishToRetry_copied (engine : Engine) (payload : Body) (headers : Headers) (attemptNumber : JsNumber)
    (correlationId : String) :
    (copying taken).Follows (RetryPublisherService.publishToRetry engine payload headers attemptNumber
      correlationId) start Scheduled := by
  have nothing : start.GivenUp := ⟨rfl,.inl rfl⟩
  unfold RetryPublisherService.publishToRetry
  simp only [Async.bind_eq]
  refine (copied_request rfl start).before ?_ (fun _ => nothing)
  intro channel
  refine (copied_request rfl start).before ?_ (fun _ => nothing)
  intro carrier
  refine Protocol.Follows.bind (M := Written) ?_ ?_ ?_
  · refine Protocol.Follows.call trivial ?_
    intro outcome after moved
    obtain ⟨effective,rfl⟩ := moved
    cases outcome with
    | error error => simp [Written,add,start,Event.requeues,Event.enqueues]
    | ok accepted =>
      refine ⟨rfl,?_,by simp [add,start,Event.disowns]⟩
      simp only [add,start]
      split <;> decide
  · intro after published known
    obtain ⟨kept,few,disowned⟩ := known
    have counted := Nat.le_one_iff_eq_zero_or_eq_one.mp few
    cases published with
    | false =>
      refine ⟨kept,counted.imp_right ?_⟩
      intro one
      exact ⟨one,disowned⟩
    | true =>
      refine Protocol.Follows.call trivial ?_
      intro outcome last moved
      obtain ⟨effective,rfl⟩ := moved
      cases outcome with
      | ok confirmed =>
        have owned : after.disowned = false := disowned
        simp [Scheduled,add,kept,owned,Event.requeues,Event.disowns]
      | error error =>
        refine ⟨by simp [add,kept,Event.requeues],?_⟩
        simpa [add,Event.enqueues,Event.disowns] using counted
  · intro after error known
    exact ⟨known.1,.inl known.2⟩

theorem scheduleRetry_copied (engine : Engine) (delivery : Delivery) (error : Thrown) (now : Int)
    (correlationId : String) :
    (copying taken).Follows (MessagingController.scheduleRetry engine delivery error now correlationId) start
      (fun after _ => after.Told) := by
  unfold MessagingController.scheduleRetry
  simp only [Async.bind_eq]
  refine Protocol.Follows.bind (M := Settled) ?_ ?_ (fun _ _ told => told)
  · refine Protocol.Follows.tryCatch (M := fun after outcome =>
      Scheduled after outcome ∧ outcome ≠ .ok false) ?_ ?_ ?_
    · refine (publishToRetry_copied engine _ _ _ _).bind ?_ (fun _ _ given => ⟨given,by simp⟩)
      intro after published known
      exact ⟨known,by simp⟩
    · intro after scheduled known
      obtain ⟨known,honest⟩ := known
      cases scheduled with
      | true => exact known
      | false => exact absurd rfl honest
    · intro after error given
      obtain ⟨⟨kept,copy⟩,_⟩ := given
      -- the nack gives the delivery back, whatever became of the copy
      refine Protocol.Follows.bind (M := fun last _ => last.Told) ?_ (fun _ _ told => told)
        (fun _ _ told => told)
      refine Protocol.Follows.call trivial ?_
      intro outcome last moved
      obtain ⟨effective,rfl⟩ := moved
      refine .inr ⟨by simp [add,kept,Event.requeues],?_⟩
      simpa [add,Event.enqueues,Event.disowns] using copy
  · intro after scheduled known
    cases scheduled with
    | false => exact known
    | true =>
      have told : after.Told := .inl ⟨known.1,.inr known.2⟩
      have still : (copying taken).Still ((request .ack).bind
          (fun _ => request (.count (.retryCount (engine.print ((MessagingController.readRetryCount
            delivery.headers).add (.finite 1))))))) after :=
        (copied_request rfl after).bind (fun _ => copied_request rfl after)
      refine still.mono ?_
      intro last outcome same
      exact same ▸ told

theorem handleFailure_copied (engine : Engine) (delivery : Delivery) (eventTypeName correlationId : String)
    (durableAttemptCount : Int) (error : Thrown) :
    (copying taken).Follows (MessagingController.handleFailure engine delivery eventTypeName correlationId
      durableAttemptCount error) start (fun after _ => after.Told) := by
  have nothing : start.Told := .inl ⟨rfl,.inl rfl⟩
  unfold MessagingController.handleFailure
  simp only [Async.bind_eq]
  refine (copied_request rfl start).before ?_ (fun _ => nothing)
  intro now
  refine (copied_request rfl start).before ?_ (fun _ => nothing)
  intro counted
  split
  next => exact scheduleRetry_copied engine delivery error now correlationId
  next =>
    refine (copied_request rfl start).mono ?_
    intro after outcome same
    exact same ▸ nothing

theorem handleMessage_copied (engine : Engine) (zod : Schema.Library) (delivery : Delivery) :
    (copying taken).Follows (MessagingController.handleMessage engine zod delivery) start
      (fun after _ => after.Told) := by
  have nothing : start.Told := .inl ⟨rfl,.inl rfl⟩
  have ended : ∀ {Value : Type} {program : Program Value}, (copying taken).Still program start →
      (copying taken).Follows program start (fun after _ => after.Told) :=
    fun still => still.mono (fun after outcome same => same ▸ nothing)
  unfold MessagingController.handleMessage
  dsimp only
  split
  next errors _ =>
    apply ended
    apply (copied_request rfl start).bind
    intro counted
    apply (copied_request rfl start).bind
    intro published
    exact copied_request rfl start
  next event _ =>
    split
    next issues _ => exact nothing
    next event _ =>
      unfold MessagingController.handleValid RetryAttemptTrackerService.recordAttempt
      simp only [Async.bind_eq]
      refine Protocol.Still.before (Protocol.Still.bind (copied_request rfl start) ?_) ?_ (fun _ => nothing)
      · intro rows
        exact rfl
      · intro durableAttemptCount
        refine (copied_request rfl start).before ?_ (fun _ => nothing)
        intro received
        refine (copied_request rfl start).before ?_ (fun _ => nothing)
        intro validated
        refine Protocol.Follows.tryCatch (processEvent_copied event _ start) (fun _ _ same => same ▸ nothing) ?_
        intro after error same
        have here : after = start := same
        subst here
        exact handleFailure_copied engine delivery _ event.correlationId durableAttemptCount error

end programs

/-- A delivery that is given back is alone, except when its copy was disowned and is enqueued. -/
theorem requeued_alone_iff (engine : Engine) (zod : Schema.Library) (delivery : Delivery) (environment : Environment)
    (taken : Publication → Bool) :
    let log := environment.log (MessagingController.handleMessage engine zod delivery)
    (log.any Event.requeues = true → log.countP Event.requeues + log.countP (Event.enqueues taken) = 1) ↔
      ¬ (log.any (Event.enqueues taken) = true ∧ log.any Event.disowns = true) := by
  intro log
  have moved : ∀ before request, (copying taken).moves (.of taken before) request
      (environment.answer before request).1 (.of taken (environment.answer before request).2) :=
    fun before request => ⟨_,of_append taken before _⟩
  have follows : (copying taken).Follows (MessagingController.handleMessage engine zod delivery) (.of taken [])
    (fun after _ => after.Told) := handleMessage_copied engine zod delivery
  have told : (Copies.of taken log).Told := follows.evaluate environment.answer (Copies.of taken) moved
  have counted : ∀ pick : Event → Bool, log.any pick = true ↔ 0 < log.countP pick := by
    intro pick
    rw [List.countP_pos_iff,List.any_eq_true]
  rw [counted,counted]
  rcases told with ⟨kept,copy⟩ | ⟨given,copy⟩
  · have requeued : log.countP Event.requeues = 0 := kept
    refine iff_of_true (fun some => absurd some (by omega)) ?_
    intro both
    rcases copy with zero | owned
    · have copies : log.countP (Event.enqueues taken) = 0 := zero
      exact absurd both.1 (by omega)
    · exact absurd (both.2.symm.trans owned) (by decide)
  · have requeued : log.countP Event.requeues = 1 := given
    rcases copy with zero | ⟨one,disowned⟩
    · have copies : log.countP (Event.enqueues taken) = 0 := zero
      exact iff_of_true (fun _ => by omega) (fun both => absurd both.1 (by omega))
    · have copies : log.countP (Event.enqueues taken) = 1 := one
      have given_up : log.any Event.disowns = true := disowned
      refine iff_of_false (fun alone => absurd (alone (by omega)) (by omega)) ?_
      intro apart
      exact apart ⟨by omega,given_up⟩

end Consumer

namespace Outbox
open Driver

namespace Call

def recordsFailure : Call → Bool
  | ⟨.query _ (.markFailed _ _ _ _ _ _),_⟩ => true
  | _ => false

def sends (taken : Publication → Bool) : Call → Bool
  | ⟨.publish _ publication,.ok _⟩ => taken publication
  | _ => false

/-- A step that follows the buffering of the message is treated as a failed attempt. -/
def disowns : Call → Bool
  | ⟨.publish _ _,.ok accepted⟩ => !accepted
  | ⟨.waitForConfirms _,.error _⟩ => true
  | ⟨.query _ (.markSent _ _),.error _⟩ => true
  | _ => false

end Call

structure Attempt where
  failed : Bool
  sent : Bool
  disowned : Bool

namespace Attempt

variable (taken : Publication → Bool)

def of (log : List Call) : Attempt :=
  ⟨log.any Call.recordsFailure,log.any (Call.sends taken),log.any Call.disowns⟩

def add (attempt : Attempt) (call : Call) : Attempt :=
  ⟨attempt.failed || call.recordsFailure,attempt.sent || call.sends taken,attempt.disowned || call.disowns⟩

theorem of_append (log : List Call) (call : Call) : of taken (log ++ [call]) = (of taken log).add taken call := by
  simp [of,add]

def start : Attempt := ⟨false,false,false⟩

def Broken (attempt : Attempt) : Prop := attempt.failed = false ∧ (attempt.sent = true → attempt.disowned = true)

def Owned {Value : Type} (attempt : Attempt) (outcome : Except Thrown Value) : Prop :=
  attempt.failed = false ∧ attempt.disowned = !outcome.isOk

def Buffered (attempt : Attempt) : Except Thrown Bool → Prop
  | .ok accepted => attempt.failed = false ∧ attempt.disowned = !accepted
  | .error _ => attempt.failed = false ∧ attempt.sent = false

/-- Whether the attempt failed says whether the message was not buffered or disowned. -/
def Told (attempt : Attempt) : Prop :=
  (attempt.failed = false ∧ attempt.disowned = false) ∨
  (attempt.failed = true ∧ (attempt.sent = true → attempt.disowned = true))

def Tried {Value : Type} (attempt : Attempt) : Except Thrown Value → Prop
  | .ok _ => attempt.Told
  | .error _ => attempt.Broken

end Attempt

open Attempt

def attempting (taken : Publication → Bool) : Protocol Attempt Thrown Request (Reply returningRows) where
  allows _ _ := True
  moves before request outcome after := (request.fails = false → outcome.isOk = true) ∧
    after = before.add taken ⟨request,outcome⟩

def Request.aside : Request → Bool
  | .getChannel _ | .inject _ | .newDate | .fencedPublish _ => true
  | .query _ _ | .publish _ _ | .waitForConfirms _ | .declare _ => false

theorem attempted_aside {taken : Publication → Bool} {request : Request} (aside : request.aside = true)
    (attempt : Attempt) : (attempting taken).Follows (Outbox.request request) attempt
      (fun after outcome => after = attempt ∧ (request.fails = false → outcome.isOk = true)) := by
  refine Protocol.Follows.call trivial ?_
  intro outcome after moved
  obtain ⟨honest,rfl⟩ := moved
  refine ⟨?_,honest⟩
  cases request with
  | query _ _ | publish _ _ | waitForConfirms _ | declare _ => cases aside
  | getChannel _ | inject _ | newDate | fencedPublish _ => simp [add,Call.recordsFailure,Call.sends,Call.disowns]

section programs
variable {taken : Publication → Bool} (relay : RelayService) (engine : Engine)

theorem newStatusAndRetryAt_attempted (outcome : FailureOutcome) (attempt : Attempt) :
    (attempting taken).Follows (RelayService.newStatusAndRetryAt outcome) attempt
      (fun after next => after = attempt ∧ next.isOk = true) := by
  cases outcome with
  | retry nextRetryAt attempts => exact ⟨rfl,rfl⟩
  | deadLetter attempts =>
    refine (attempted_aside rfl attempt).bind ?_ ?_
    · intro after now known
      exact ⟨known.1,rfl⟩
    · intro after error known
      cases known.2 rfl

theorem markFailedAttempt_attempted (row : ClaimedRow) (err : Thrown) {attempt : Attempt} (broken : attempt.Broken) :
    (attempting taken).Follows (relay.markFailedAttempt engine row err) attempt (fun after _ => after.Told) := by
  unfold RelayService.markFailedAttempt
  simp only [Async.bind_eq]
  refine (attempted_aside rfl attempt).bind ?_ (fun _ _ known => by cases known.2 rfl)
  intro after now known
  obtain ⟨rfl,_⟩ := known
  refine (newStatusAndRetryAt_attempted _ after).bind ?_ (fun _ _ known => by cases known.2)
  intro last next known
  obtain ⟨rfl,_⟩ := known
  have told : ∀ (service : Service) (statement : Statement) outcome,
      Call.recordsFailure ⟨.query service statement,outcome⟩ = true →
      (last.add taken ⟨.query service statement,outcome⟩).Told := by
    intro service statement outcome records
    refine .inr ⟨by simp [add,records],?_⟩
    intro sent
    have before : last.sent = true := by simpa [add,Call.sends] using sent
    simp [add,broken.2 before]
  refine Protocol.Follows.bind (M := fun final _ => final.Told) ?_ ?_ (fun _ _ told => told)
  · refine Protocol.Follows.call trivial ?_
    intro outcome final moved
    obtain ⟨_,rfl⟩ := moved
    exact told _ _ outcome rfl
  · intro final result told
    by_cases owned : result.length > 0
    · rw [if_pos owned]
      exact told
    · rw [if_neg owned]
      refine (attempted_aside rfl final).mono ?_
      intro ended outcome known
      exact known.1 ▸ told

theorem publishOne_attempted (row : ClaimedRow) :
    (attempting taken).Follows (relay.publishOne engine row) start (fun after _ => after.Told) := by
  have nothing : start.Broken := ⟨rfl,fun impossible => by cases impossible⟩
  unfold RelayService.publishOne
  refine Protocol.Follows.tryCatch (M := Tried) ?_ (fun _ _ told => told)
    (fun after error broken => markFailedAttempt_attempted relay engine row error broken)
  simp only [Async.bind_eq]
  refine (attempted_aside rfl start).bind ?_ (fun _ _ known => known.1 ▸ nothing)
  intro after channel known
  obtain ⟨rfl,_⟩ := known
  refine (attempted_aside rfl start).bind ?_ (fun _ _ known => known.1 ▸ nothing)
  intro after carrier known
  obtain ⟨rfl,_⟩ := known
  refine Protocol.Follows.bind (M := Buffered) ?_ ?_ ?_
  · refine Protocol.Follows.call trivial ?_
    intro outcome after moved
    obtain ⟨_,rfl⟩ := moved
    cases outcome <;> simp [Buffered,add,start,Call.recordsFailure,Call.sends,Call.disowns]
  · intro after published known
    obtain ⟨unfailed,disowned⟩ := known
    cases published with
    | false => exact ⟨unfailed,fun _ => disowned⟩
    | true =>
      have owned : after.disowned = false := disowned
      refine Protocol.Follows.bind (M := Owned) ?_ ?_ (fun _ _ known => ⟨known.1,fun _ => known.2⟩)
      · refine Protocol.Follows.call trivial ?_
        intro outcome last moved
        obtain ⟨_,rfl⟩ := moved
        cases outcome <;>
          simp [Owned,add,unfailed,owned,Call.recordsFailure,Call.disowns,Except.isOk,Except.toBool]
      · intro last confirmed known
        obtain ⟨unfailed,resolved⟩ := known
        have kept : last.disowned = false := resolved
        have marked : (attempting taken).Follows (relay.markSent row.id row.lockVersion) last Owned := by
          unfold RelayService.markSent
          refine Protocol.Follows.bind (M := Owned) ?_ (fun _ _ known => known) (fun _ _ known => known)
          refine Protocol.Follows.call trivial ?_
          intro outcome final moved
          obtain ⟨_,rfl⟩ := moved
          cases outcome <;>
            simp [Owned,add,unfailed,kept,Call.recordsFailure,Call.disowns,Except.isOk,Except.toBool]
        refine marked.bind ?_ (fun _ _ known => ⟨known.1,fun _ => known.2⟩)
        intro final stillOwned known
        have told : final.Told := .inl known
        cases stillOwned with
        | true => exact told
        | false =>
          refine (attempted_aside rfl final).mono ?_
          intro ended outcome known
          obtain ⟨rfl,resolved⟩ := known
          cases outcome with
          | ok done => exact told
          | error error => cases resolved rfl
  · intro after error known
    exact ⟨known.1,fun sent => by cases known.2.symm.trans sent⟩

end programs

/-- The message of a failed attempt was not sent, except when it was disowned. -/
theorem failed_unsent_iff (service : Service) (engine : Engine) (row : ClaimedRow) (surroundings : Surroundings)
    (taken : Publication → Bool) :
    let log := ((service.relay.publishOne engine row).evaluate surroundings.answer []).2
    (log.any Call.recordsFailure = true → log.any (Call.sends taken) = false) ↔
      ¬ (log.any (Call.sends taken) = true ∧ log.any Call.disowns = true) := by
  intro log
  have moved : ∀ before request, (attempting taken).moves (.of taken before) request
      (surroundings.answer before request).1 (.of taken (surroundings.answer before request).2) :=
    fun before request => ⟨surroundings.honest before request,of_append taken before _⟩
  have follows : (attempting taken).Follows (service.relay.publishOne engine row) (.of taken [])
    (fun after _ => after.Told) := publishOne_attempted service.relay engine row
  have told : (Attempt.of taken log).Told := follows.evaluate surroundings.answer (Attempt.of taken) moved
  rcases told with ⟨unfailed,owned⟩ | ⟨failed,disowned⟩
  · have resolved : log.any Call.recordsFailure = false := unfailed
    have kept : log.any Call.disowns = false := owned
    rw [resolved,kept]
    simp
  · have recorded : log.any Call.recordsFailure = true := failed
    have given_up : log.any (Call.sends taken) = true → log.any Call.disowns = true := disowned
    rw [recorded]
    constructor
    · intro unsent both
      cases both.1.symm.trans (unsent rfl)
    · intro apart _
      exact eq_false_of_ne_true (fun sent => apart ⟨sent,given_up sent⟩)

end Outbox

namespace Broker
open Consumer (Environment Event MessagingController.handleMessage)

/-- Whatever the broker makes of the messages it is sent: a delivery that the handler gives back is
the only live one if and only if no copy of it is enqueued after a step of `publishToRetry` behind
the buffering was treated as a failure, and a publish that a relay records as failed was not sent if
and only if no step behind its buffering was. -/
theorem given_up_unsent_iff (engine : Engine) (zod : Schema.Library) (delivery : Consumer.Delivery)
    (environment : Environment) (service : Outbox.Service) (row : Outbox.ClaimedRow)
    (surroundings : Outbox.Surroundings) (taken : Publication → Bool) :
    let log := environment.log (MessagingController.handleMessage engine zod delivery)
    let calls := ((service.relay.publishOne engine row).evaluate surroundings.answer []).2
    ((log.any Event.requeues = true → log.countP Event.requeues + log.countP (Event.enqueues taken) = 1) ↔
      ¬ (log.any (Event.enqueues taken) = true ∧ log.any Event.disowns = true)) ∧
    ((calls.any Outbox.Call.recordsFailure = true → calls.any (Outbox.Call.sends taken) = false) ↔
      ¬ (calls.any (Outbox.Call.sends taken) = true ∧ calls.any Outbox.Call.disowns = true)) :=
  ⟨Consumer.requeued_alone_iff engine zod delivery environment taken,
    Outbox.failed_unsent_iff service engine row surroundings taken⟩

def backPressured : Environment := fun _ request =>
  match request with
  | .saveMessage _ => (.error ⟨.error,"Error","Connection terminated",some "ECONNRESET",none⟩,false)
  | .publish _ _ => (.ok false,true)
  | request => (.ok (Consumer.sampleReply request),true)

/-- The delivery is given back, and its buffered copy is sent all the same. -/
theorem back_pressure_duplicates : ¬ ∀ (engine : Engine) (zod : Schema.Library) (delivery : Consumer.Delivery)
    (environment : Environment) (taken : Publication → Bool),
    let log := environment.log (MessagingController.handleMessage engine zod delivery)
    log.any Event.requeues = true → log.countP Event.requeues + log.countP (Event.enqueues taken) = 1 := by
  intro alone
  have counted := alone Consumer.sampleEngine sampleLibrary Consumer.sampleDelivery backPressured (fun _ => true)
    (by decide +kernel)
  exact absurd counted (by decide +kernel)

end Broker

end MessagingPlatform
