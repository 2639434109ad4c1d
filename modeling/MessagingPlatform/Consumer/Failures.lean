import MessagingPlatform.Consumer.Settled

/-! A failed attempt as the catch block of the handler sees it. The handler is an attempt that
resolves to its failure, and then a decision that is the only part of it that publishes or nacks. -/
namespace MessagingPlatform.Consumer
open Schema

structure Failure where
  event : CreateMessageEventV2
  durableAttemptCount : Int
  error : Thrown
  instant : Int

namespace MessagingController

/-- The handler on a valid event, up to its decision; `none` says that nothing was thrown. -/
def attemptValid (eventTypeName : String) (event : CreateMessageEventV2) : Program (Option Failure) := do
  let durableAttemptCount ← RetryAttemptTrackerService.recordAttempt event.eventId
  request (.lifecycle ⟨.received,eventTypeName,event.eventId,event.correlationId,none⟩)
  request (.lifecycle ⟨.validated,eventTypeName,event.eventId,event.correlationId,none⟩)
  let settled ← (processEvent event eventTypeName).settle
  match settled with
  | .ok _ => pure none
  | .error error => do
      let now ← request .newDate
      request (.count (.messagesFailed eventTypeName (classifyError error)))
      pure (some ⟨event,durableAttemptCount,error,now⟩)

variable (engine : Engine) (zod : Library) (delivery : Delivery)

def attempt : Program (Option Failure) :=
  let eventTypeName := (schemaVersion engine delivery.headers delivery.data).eventTypeName
  match validate engine zod delivery.headers delivery.data with
  | .error errors => (rejectInvalid delivery.data eventTypeName errors).bind (fun _ => .resolve none)
  | .ok event =>
      match normalize event with
      | .invalid issues _ => .reject ⟨.error,"ZodError",zod.errorText issues,none,none⟩
      | .valid event => attemptValid eventTypeName event

def conclude : Option Failure → Program Unit
  | none => pure ()
  | some failure =>
      if classifyError failure.error = .transient ∧ failure.durableAttemptCount < RetryConfig.maxAttempts then
        scheduleRetry engine delivery failure.error failure.instant failure.event.correlationId
      else request (.nack false)

theorem handleValid_eq (eventTypeName : String) (event : CreateMessageEventV2) :
    handleValid engine delivery eventTypeName event =
      (attemptValid eventTypeName event).bind (conclude engine delivery) := by
  unfold handleValid attemptValid
  simp only [Async.bind_eq,Async.bind_assoc,Async.tryCatch_eq_settle]
  congr 1
  funext durableAttemptCount
  congr 1
  funext received
  congr 1
  funext validated
  congr 1
  funext settled
  cases settled with
  | ok done => rfl
  | error error =>
    unfold handleFailure
    simp only [Async.bind_eq,Async.bind_assoc]
    rfl

theorem handleMessage_eq :
    handleMessage engine zod delivery = (attempt engine zod delivery).bind (conclude engine delivery) := by
  unfold handleMessage attempt
  cases validated : validate engine zod delivery.headers delivery.data with
  | error errors =>
    dsimp only
    rw [Async.bind_assoc]
    exact (Async.bind_resolve _).symm
  | ok event =>
    cases upcast : normalize event with
    | invalid issues kept => simp only [upcast,Async.bind]
    | valid processed =>
      simp only [upcast]
      exact handleValid_eq engine delivery _ processed

end MessagingController

def Request.decides : Request → Bool
  | .publish _ _ | .nack _ => true
  | _ => false

theorem Request.undecided_of_processes {request : Request} (processes : request.processes = true) :
    request.decides = false := by
  cases request <;> first | rfl | cases processes

abbrev Undecided {Value : Type} (program : Program Value) : Prop :=
  program.Asks (fun request => request.decides = false)

theorem undecided_request {request : Request} (undecided : request.decides = false) :
    Undecided (Consumer.request request) := Async.Asks.call undecided

theorem rejectInvalid_undecided (data : Option Json) (eventTypeName : String)
    (errors : List ValidationFailureDetail) :
    Undecided (MessagingController.rejectInvalid data eventTypeName errors) := by
  refine Async.Asks.bind (undecided_request rfl) ?_
  intro counted
  refine Async.Asks.bind (undecided_request rfl) ?_
  intro published
  exact undecided_request rfl

theorem attemptValid_undecided (eventTypeName : String) (event : CreateMessageEventV2) :
    Undecided (MessagingController.attemptValid eventTypeName event) := by
  have recorded : Undecided (RetryAttemptTrackerService.recordAttempt event.eventId) :=
    Async.Asks.bind (undecided_request rfl) (fun _ => trivial)
  refine recorded.bind ?_
  intro durableAttemptCount
  refine Async.Asks.bind (undecided_request rfl) ?_
  intro received
  refine Async.Asks.bind (undecided_request rfl) ?_
  intro validated
  have processed : Undecided (MessagingController.processEvent event eventTypeName).settle :=
    ((Bookkeeping.processEvent event eventTypeName).mono (fun _ => Request.undecided_of_processes)).settle
  refine processed.bind ?_
  intro settled
  cases settled with
  | ok done => exact trivial
  | error error =>
    refine Async.Asks.bind (undecided_request rfl) ?_
    intro now
    exact Async.Asks.bind (undecided_request rfl) (fun _ => trivial)

theorem attempt_undecided (engine : Engine) (zod : Library) (delivery : Delivery) :
    Undecided (MessagingController.attempt engine zod delivery) := by
  unfold MessagingController.attempt
  dsimp only
  split
  next errors _ => exact (rejectInvalid_undecided delivery.data _ errors).bind (fun _ => trivial)
  next event _ =>
    split
    next issues _ => exact trivial
    next processed _ => exact attemptValid_undecided _ processed

namespace Environment
variable {Text Value : Type} (environment : Environment Text)

theorem log_grows (program : TextProgram Text Value) (log : List (Event Text)) :
    ∃ more, (program.evaluate environment.answer log).2 = log ++ more := by
  induction program generalizing log with
  | resolve value => exact ⟨[],(List.append_nil log).symm⟩
  | reject error => exact ⟨[],(List.append_nil log).symm⟩
  | await request next ih =>
    obtain ⟨more,grown⟩ := ih (environment.answer log request).1 (environment.answer log request).2
    exact ⟨_ :: more,grown.trans (List.append_assoc log _ more)⟩

/-- Every call in the log of a program that follows a protocol was allowed when it was made. -/
theorem allowed {View : Type} {P : Protocol View Thrown (Request Text) Reply} (shows : List (Event Text) → View)
    (moved : ∀ log request, P.moves (shows log) request (environment.answer log request).1
      (shows (environment.answer log request).2))
    {program : TextProgram Text Value} {log : List (Event Text)} {post : View → Except Thrown Value → Prop}
    (follows : P.Follows program (shows log) post) {before after : List (Event Text)} {event : Event Text}
    (logged : (program.evaluate environment.answer log).2 = before ++ event :: after)
    (new : log.length ≤ before.length) : P.allows (shows before) event.request := by
  induction program generalizing log with
  | resolve value =>
    have lengths := congrArg List.length logged
    simp only [Async.evaluate_resolve,List.length_append,List.length_cons] at lengths
    omega
  | reject error =>
    have lengths := congrArg List.length logged
    simp only [Async.evaluate_reject,List.length_append,List.length_cons] at lengths
    omega
  | await request next ih =>
    have rest := follows.2 _ _ (moved log request)
    rcases Nat.lt_or_ge log.length before.length with later | here
    · refine ih _ rest logged ?_
      simp only [answer,List.length_append,List.length_singleton]
      omega
    · obtain ⟨more,grown⟩ := environment.log_grows (next (environment.answer log request).1)
        (environment.answer log request).2
      have same : log ++ (_ :: more) = before ++ event :: after :=
        (List.append_assoc log _ more).symm.trans (grown.symm.trans logged)
      obtain ⟨rfl,tail⟩ := List.append_inj same (by omega)
      obtain ⟨rfl,_⟩ := List.cons.inj tail
      exact follows.1

theorem asked {named : Request Text → Prop} {program : TextProgram Text Value} (asks : program.Asks named)
    {log : List (Event Text)} {event : Event Text} (member : event ∈ (program.evaluate environment.answer log).2) :
    event ∈ log ∨ named event.request :=
  asks.logged (fun _ _ => ⟨_,rfl,rfl⟩) member

end Environment

end MessagingPlatform.Consumer
