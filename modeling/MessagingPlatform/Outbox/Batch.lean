import MessagingPlatform.Lib.Protocol
import MessagingPlatform.Outbox.System

/-! One tick of a relay in arbitrary surroundings. Every failure of a publish or of `markSent` is
caught and recorded; the failure to record it is what ends the tick. -/
namespace MessagingPlatform.Outbox
open Driver

structure Call where
  request : Request
  outcome : Except Thrown (Reply returningRows request)

/-- Settles every call, knowing all that happened before. Only database and broker calls reject. -/
structure Surroundings where
  settles : List Call → (request : Request) → Except Thrown (Reply returningRows request)
  honest : ∀ log request, request.fails = false → (settles log request).isOk = true

def Surroundings.answer (surroundings : Surroundings) (log : List Call) (request : Request) :
    Except Thrown (Reply returningRows request) × List Call :=
  let outcome := surroundings.settles log request
  (outcome,log ++ [⟨request,outcome⟩])

def Call.failsRecording : Call → Bool
  | ⟨.query _ (.markFailed _ _ _ _ _ _),.error _⟩ => true
  | _ => false

def watching : Protocol Bool Thrown Request (Reply returningRows) where
  allows _ _ := True
  moves before request outcome after := (request.fails = false → outcome.isOk = true) ∧
    after = (before || Call.failsRecording ⟨request,outcome⟩)

def Told {Value : Type} (after : Bool) (outcome : Except Thrown Value) : Prop := after = !outcome.isOk

def Request.recordsFailure : Request → Bool
  | .query _ (.markFailed _ _ _ _ _ _) => true
  | _ => false

theorem watched_other {request : Request} (other : request.recordsFailure = false) (view : Bool) :
    watching.Still (Outbox.request request) view := by
  refine Protocol.Follows.call trivial ?_
  intro outcome after moved
  obtain ⟨_,rfl⟩ := moved
  have silent : Call.failsRecording ⟨request,outcome⟩ = false := by
    cases request with
    | query service statement =>
      cases statement with
      | markFailed _ _ _ _ _ _ => cases other
      | claim _ _ | markSent _ _ | reap _ | replayOne _ | replayFailed _ => cases outcome <;> rfl
    | getChannel _ | inject _ | publish _ _ | waitForConfirms _ | newDate | fencedPublish _ | declare _ =>
      cases outcome <;> rfl
  rw [silent,Bool.or_false]

theorem watched_reliable {request : Request} (other : request.recordsFailure = false)
    (reliable : request.fails = false) (view : Bool) :
    watching.Follows (Outbox.request request) view (fun after outcome => after = view ∧ outcome.isOk = true) := by
  refine Protocol.Follows.call trivial ?_
  intro outcome after moved
  have silent : Call.failsRecording ⟨request,outcome⟩ = false := by
    cases request with
    | query service statement => cases reliable
    | getChannel _ | inject _ | publish _ _ | waitForConfirms _ | newDate | fencedPublish _ | declare _ =>
      cases outcome <;> rfl
  obtain ⟨honest,rfl⟩ := moved
  exact ⟨by rw [silent,Bool.or_false],honest reliable⟩

namespace RelayService

variable (relay : RelayService) (engine : Engine)

theorem newStatusAndRetryAt_watched (outcome : FailureOutcome) :
    watching.Follows (newStatusAndRetryAt outcome) false (fun after next => after = false ∧ next.isOk = true) := by
  cases outcome with
  | retry nextRetryAt attempts => exact ⟨rfl,rfl⟩
  | deadLetter attempts =>
    refine (watched_reliable rfl rfl false).bind ?_ ?_
    · intro after now known
      exact ⟨known.1,rfl⟩
    · intro after error known
      cases known.2

theorem markFailedAttempt_watched (row : ClaimedRow) (err : Thrown) :
    watching.Follows (relay.markFailedAttempt engine row err) false Told := by
  unfold markFailedAttempt
  simp only [Async.bind_eq]
  refine (watched_reliable rfl rfl false).bind ?_ (fun _ _ known => by cases known.2)
  intro after now known
  obtain ⟨rfl,_⟩ := known
  refine (newStatusAndRetryAt_watched _).bind ?_ (fun _ _ known => by cases known.2)
  intro after next known
  obtain ⟨rfl,_⟩ := known
  refine Protocol.Follows.bind (M := Told) ?_ ?_ (fun _ _ told => told)
  · refine Protocol.Follows.call trivial ?_
    intro outcome after moved
    obtain ⟨_,rfl⟩ := moved
    cases outcome <;> rfl
  · intro after result told
    have here : after = false := told
    subst here
    by_cases owned : result.length > 0
    · rw [if_pos owned]
      exact rfl
    · rw [if_neg owned]
      refine (watched_reliable rfl rfl false).mono ?_
      intro last outcome known
      obtain ⟨same,resolved⟩ := known
      simp [Told,same,resolved]

theorem publishOne_watched (row : ClaimedRow) : watching.Follows (relay.publishOne engine row) false Told := by
  unfold publishOne
  refine Protocol.Follows.tryCatch (M := fun after _ => after = false) ?_ ?_ ?_
  · refine (watched_other rfl false).bind ?_
    intro channel
    refine (watched_other rfl false).bind ?_
    intro carrier
    refine (watched_other rfl false).bind ?_
    intro published
    cases published with
    | false => exact rfl
    | true =>
      refine (watched_other rfl false).bind ?_
      intro confirmed
      refine Protocol.Still.bind (Protocol.Still.bind (watched_other rfl false) ?_) ?_
      · intro result
        exact rfl
      · intro stillOwned
        cases stillOwned with
        | true => exact rfl
        | false => exact watched_other rfl false
  · intro after value same
    exact same
  · intro after error same
    have here : after = false := same
    subst here
    exact relay.markFailedAttempt_watched engine row error

theorem published_watched (rows : List ClaimedRow) :
    watching.Follows (rows.forM (relay.publishOne engine)) false Told := by
  refine Protocol.Follows.mono (Protocol.Follows.forM (I := fun _ view => view = false)
    (F := fun view _ => view = true) rfl ?_) ?_
  · intro row rest view same
    subst same
    refine (relay.publishOne_watched engine row).mono ?_
    intro after outcome told
    cases outcome <;> exact told
  · intro after outcome learned
    cases outcome <;> exact learned

end RelayService

namespace Surroundings

variable (surroundings : Surroundings)

theorem moves (log : List Call) (request : Request) :
    watching.moves (log.any Call.failsRecording) request (surroundings.answer log request).1
      ((surroundings.answer log request).2.any Call.failsRecording) := by
  refine ⟨surroundings.honest log request,?_⟩
  simp [answer]

theorem tick_eq (service : Service) (engine : Engine) (instanceId : String) (batchSize : Nat)
    {rows : List ClaimedRow}
    (claimed : surroundings.settles [] (.query service (.claim instanceId batchSize)) = .ok rows) :
    (service.relay.runRelayTick (service.relay.publishOne engine) instanceId batchSize).evaluate
        surroundings.answer [] =
      (rows.forM (service.relay.publishOne engine)).evaluate surroundings.answer
        [⟨.query service (.claim instanceId batchSize),.ok rows⟩] := by
  have asked : (service.relay.claimBatch instanceId batchSize).evaluate surroundings.answer [] =
      (.ok rows,[⟨.query service (.claim instanceId batchSize),.ok rows⟩]) := by
    unfold RelayService.claimBatch query
    rw [Async.evaluate_call,Service.relay_service]
    unfold answer
    rw [claimed]
    rfl
  unfold RelayService.runRelayTick relayTick
  simp only [Async.bind_eq]
  rw [Async.evaluate_bind,Async.evaluate_tryCatch,Async.evaluate_bind,asked]
  simp only [Async.evaluate_resolve]
  cases rows with
  | nil => rfl
  | cons row rest => rfl

end Surroundings

/-- The tick resolves and tries every claimed row, in the order of the batch, if and only if no
UPDATE of a `markFailedAttempt` rejects. -/
theorem batch_isolated_iff (service : Service) (engine : Engine) (instanceId : String) (batchSize : Nat)
    (surroundings : Surroundings) (rows : List ClaimedRow)
    (claimed : surroundings.settles [] (.query service (.claim instanceId batchSize)) = .ok rows) :
    let run := (service.relay.runRelayTick (service.relay.publishOne engine) instanceId batchSize).evaluate
      surroundings.answer []
    (run.1 = .ok () ∧ Async.started surroundings.answer (service.relay.publishOne engine) rows
        [⟨.query service (.claim instanceId batchSize),.ok rows⟩] = rows) ↔
      run.2.any Call.failsRecording = false := by
  intro run
  have loop : run = (rows.forM (service.relay.publishOne engine)).evaluate surroundings.answer
      [⟨.query service (.claim instanceId batchSize),.ok rows⟩] :=
    surroundings.tick_eq service engine instanceId batchSize claimed
  have told : Told (run.2.any Call.failsRecording) run.1 := by
    rw [loop]
    exact (service.relay.published_watched engine rows).evaluate surroundings.answer
      (fun log => log.any Call.failsRecording) surroundings.moves
  constructor
  · intro isolated
    unfold Told at told
    rw [isolated.1] at told
    exact told
  · intro recorded
    have resolves : run.1 = .ok () := by
      unfold Told at told
      rw [recorded] at told
      cases outcome : run.1 with
      | ok done => rfl
      | error error =>
        rw [outcome] at told
        cases told
    refine ⟨resolves,?_⟩
    rw [loop] at resolves
    exact Async.started_eq_of_resolves surroundings.answer resolves

def twoRows : List ClaimedRow := [
  ⟨1,"MessagePersisted",.null,none,0,5,1,none,none⟩,
  ⟨2,"MessagePersisted",.null,none,0,5,1,none,none⟩]

def twoRowsReply : (request : Request) → Reply returningRows request
  | .query _ (.claim _ _) => twoRows
  | .query _ (.markSent id _) => ([id] : List Nat)
  | .query _ (.markFailed _ _ _ _ id _) => ([id] : List Nat)
  | .query _ (.reap _) | .query _ (.replayOne _) | .query _ (.replayFailed _) => ([] : List Nat)
  | .getChannel _ => (0 : Nat)
  | .inject _ => ([] : TraceCarrier)
  | .publish _ _ => true
  | .newDate => (0 : Int)
  | .waitForConfirms _ | .fencedPublish _ | .declare _ => ()

def sampleSurroundings (rejects : Request → Bool) : Surroundings where
  settles _ request := if rejects request && request.fails then .error (.ofMessage "Connection terminated")
    else .ok (twoRowsReply request)
  honest log request reliable := by simp [reliable,Except.isOk,Except.toBool]

def brokerAway : Request → Bool
  | .getChannel _ => true
  | _ => false

def allAway : Request → Bool
  | .getChannel _ | .query _ (.markFailed _ _ _ _ _ _) => true
  | _ => false

theorem unpublished_batch_isolated :
    let run := (Service.messaging.relay.runRelayTick (Service.messaging.relay.publishOne sampleSettings.engine)
      "relay" 25).evaluate (sampleSurroundings brokerAway).answer []
    run.1 = .ok () ∧ Async.started (sampleSurroundings brokerAway).answer
        (Service.messaging.relay.publishOne sampleSettings.engine) twoRows
        [⟨.query .messaging (.claim "relay" 25),.ok twoRows⟩] = twoRows :=
  (batch_isolated_iff .messaging sampleSettings.engine "relay" 25 (sampleSurroundings brokerAway) twoRows rfl).mpr
    (by decide)

set_option maxRecDepth 4000 in
/-- The failure of the first row cannot be recorded, so the second row is not tried. -/
theorem second_row_untried : ¬ ∀ service engine instanceId batchSize (surroundings : Surroundings)
    (rows : List ClaimedRow),
    surroundings.settles [] (.query service (.claim instanceId batchSize)) = .ok rows →
    let run := (service.relay.runRelayTick (service.relay.publishOne engine) instanceId batchSize).evaluate
      surroundings.answer []
    run.1 = .ok () ∧ Async.started surroundings.answer (service.relay.publishOne engine) rows
      [⟨.query service (.claim instanceId batchSize),.ok rows⟩] = rows := by
  intro isolated
  obtain ⟨_,all⟩ := isolated .messaging sampleSettings.engine "relay" 25 (sampleSurroundings allAway) twoRows rfl
  have ids := congrArg (List.map ClaimedRow.id) all
  exact absurd ids (by decide +kernel)

end MessagingPlatform.Outbox
