import MessagingPlatform.Outbox.System

/-! What each program of the relay system may ask for, whatever it is answered. -/
namespace MessagingPlatform.Outbox
open Driver

namespace Request

def bookkeeps : Request → Prop
  | .newDate | .query _ (.markFailed _ _ _ _ _ _) | .fencedPublish _ => True
  | _ => False

def delivers : Request → Prop
  | .getChannel _ | .inject _ | .publish _ _ | .waitForConfirms _ | .query _ (.markSent _ _) => True
  | request => request.bookkeeps

def claims : Request → Prop
  | .query _ (.claim _ _) => True
  | _ => False

def reaps : Request → Prop
  | .query _ (.reap _) => True
  | _ => False

def replays : Request → Prop
  | .query _ (.replayOne _) | .query _ (.replayFailed _) => True
  | _ => False

def declares : Request → Prop
  | .declare _ => True
  | _ => False

theorem delivers_of_bookkeeps {request : Request} (bookkeeps : request.bookkeeps) : request.delivers := by
  cases request with
  | query service statement =>
    cases statement with
    | markFailed _ _ _ _ _ _ => trivial
    | claim _ _ | markSent _ _ | reap _ | replayOne _ | replayFailed _ => exact bookkeeps.elim
  | newDate | fencedPublish _ => trivial
  | getChannel _ | inject _ | publish _ _ | waitForConfirms _ | declare _ => exact bookkeeps.elim

end Request

section asks
variable {A : Type} {named : Request → Prop}

theorem asks_call {asked : Request} (among : named asked) {f : Reply returningRows asked → Program returningRows A}
    (continues : ∀ reply, (f reply).Asks named) : Async.Asks named ((request asked).bind f) :=
  (Async.Asks.call among).bind continues

namespace RelayService

variable (relay : RelayService) (engine : Engine)

theorem newStatusAndRetryAt_asks (outcome : FailureOutcome) :
    (newStatusAndRetryAt outcome : Program returningRows _).Asks Request.bookkeeps := by
  cases outcome with
  | deadLetter newAttempts => exact asks_call trivial (fun _ => trivial)
  | retry nextRetryAt newAttempts => trivial

theorem markFailedAttempt_asks (row : ClaimedRow) (err : Thrown) :
    (relay.markFailedAttempt engine row err : Program returningRows Unit).Asks Request.bookkeeps := by
  unfold markFailedAttempt
  simp only [Async.bind_eq]
  refine asks_call trivial ?_
  intro now
  apply (newStatusAndRetryAt_asks _).bind
  intro next
  refine asks_call trivial ?_
  intro result
  split
  · trivial
  · exact Async.Asks.call trivial

theorem publishOne_asks (row : ClaimedRow) :
    (relay.publishOne engine row : Program returningRows Unit).Asks Request.delivers := by
  have bookkept : ∀ err, (relay.markFailedAttempt engine row err : Program returningRows Unit).Asks Request.delivers :=
    fun err => (relay.markFailedAttempt_asks engine row err).mono (fun _ => Request.delivers_of_bookkeeps)
  unfold publishOne
  simp only [Async.bind_eq]
  refine Async.Asks.tryCatch ?_ bookkept
  refine asks_call trivial ?_
  intro channel
  refine asks_call trivial ?_
  intro carrier
  refine asks_call trivial ?_
  intro published
  split
  · refine asks_call trivial ?_
    intro confirmed
    have marks : (relay.markSent row.id row.lockVersion : Program returningRows Bool).Asks Request.delivers :=
      asks_call trivial (fun _ => trivial)
    apply marks.bind
    intro stillOwned
    split
    · trivial
    · exact Async.Asks.call trivial
  · trivial

theorem claimBatch_asks (instanceId : String) (batchSize : Nat) :
    (relay.claimBatch instanceId batchSize : Program returningRows _).Asks Request.claims :=
  Async.Asks.call trivial

theorem runRelayTick_asks (instanceId : String) (batchSize : Nat) :
    (relay.runRelayTick (relay.publishOne engine) instanceId batchSize : Program returningRows Unit).Asks
      (fun request => request.claims ∨ request.delivers) := by
  unfold runRelayTick relayTick
  simp only [Async.bind_eq]
  apply Async.Asks.bind
  · refine Async.Asks.tryCatch ?_ (fun _ => trivial)
    exact ((relay.claimBatch_asks instanceId batchSize).mono (fun _ => .inl)).bind (fun _ => trivial)
  · intro rows
    cases rows with
    | none => trivial
    | some rows =>
      dsimp only
      split
      · trivial
      · exact Async.Asks.forM (fun row _ => (relay.publishOne_asks engine row).mono (fun _ => .inr))

theorem reapStaleLocks_asks (ttlMs : Int) :
    (relay.reapStaleLocks ttlMs : Program returningRows Unit).Asks Request.reaps :=
  Async.Asks.tryCatch (asks_call trivial (fun _ => trivial)) (fun _ => trivial)

end RelayService

variable (settings : Settings)

theorem Task.replayById_asks (service : Service) (id : Nat) :
    (Task.program settings (.replayById service id) : Program returningRows Unit).Asks Request.replays := by
  cases service with
  | messaging =>
    refine Async.Asks.bind (asks_call trivial ?_) (fun _ => trivial)
    intro rows
    split <;> trivial
  | gateway => exact Async.Asks.bind (asks_call trivial (fun _ => trivial)) (fun _ => trivial)

theorem Task.replayAllFailed_asks (service : Service) (eventType : Option String) :
    (Task.program settings (.replayAllFailed service eventType) : Program returningRows Unit).Asks Request.replays := by
  cases service with
  | messaging => exact Async.Asks.bind (asks_call trivial (fun _ => trivial)) (fun _ => trivial)
  | gateway => exact Async.Asks.bind (asks_call trivial (fun _ => trivial)) (fun _ => trivial)

theorem Task.assertTopology_asks :
    (Task.program settings .assertTopology : Program returningRows Unit).Asks Request.declares :=
  Async.Asks.forM (fun _ _ => Async.Asks.call trivial)

end asks
end MessagingPlatform.Outbox
