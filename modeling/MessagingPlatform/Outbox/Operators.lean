import Mathlib.Data.List.Sort
import MessagingPlatform.Outbox.Failed

/-! The operators' HTTP surface of the two outboxes. A replay starts only with a request, and a request gets as far as
the replay only with the configured key, so without it failed rows wait for ever. -/
namespace MessagingPlatform.Outbox
open Driver

/-- `req.headers[...]`, where it is not undefined. -/
inductive RequestHeader where
  | string (value : String)
  | array (values : List String)
deriving DecidableEq

namespace InternalApiKeyGuard

def unauthorized (message : String) : Thrown := ⟨.error,"UnauthorizedException",message,none,none⟩

def timingSafeEqual (left right : ByteArray) : Bool := decide (left.data = right.data)

def safeCompare (provided expected : String) : Bool :=
  let providedBuf := provided.toUTF8
  let expectedBuf := expected.toUTF8
  if providedBuf.size ≠ expectedBuf.size then false else timingSafeEqual providedBuf expectedBuf

/-- `expected` is the environment variable. An empty one is falsy. -/
def canActivate (expected : Option String) (provided : Option RequestHeader) : Except Thrown Bool :=
  match expected.filter (fun key => key != "") with
  | none => .error (unauthorized "Internal API key not configured")
  | some expected =>
      match provided with
      | some (.string provided) =>
          if safeCompare provided expected then .ok true
          else .error (unauthorized "Invalid or missing internal API key")
      | _ => .error (unauthorized "Invalid or missing internal API key")

theorem safeCompare_iff {provided expected : String} : safeCompare provided expected ↔ provided = expected := by
  unfold safeCompare timingSafeEqual
  simp only [String.toUTF8_eq_toByteArray,← ByteArray.ext_iff]
  by_cases same : provided = expected
  · subst same
    simp
  · have apart : provided.toByteArray ≠ expected.toByteArray := fun equal => same (String.toByteArray_inj.mp equal)
    by_cases long : provided.utf8ByteSize = expected.utf8ByteSize <;> simp [same,apart,long]

end InternalApiKeyGuard

def Admitted (expected : Option String) (provided : Option RequestHeader) : Prop :=
  ∃ key, expected = some key ∧ key ≠ "" ∧ provided = some (.string key)

theorem canActivate_iff {expected : Option String} {provided : Option RequestHeader} :
    InternalApiKeyGuard.canActivate expected provided = .ok true ↔ Admitted expected provided := by
  unfold InternalApiKeyGuard.canActivate Admitted
  cases expected with
  | none => simp
  | some key =>
    by_cases blank : key = ""
    · simp [blank,Option.filter_some]
    · cases provided with
      | none => simp [blank,Option.filter_some]
      | some header =>
        cases header with
        | array values => simp [blank,Option.filter_some]
        | string provided =>
          by_cases same : provided = key
          · subst same
            simp [blank,Option.filter_some,InternalApiKeyGuard.safeCompare_iff]
          · simp [blank,Option.filter_some,InternalApiKeyGuard.safeCompare_iff,same]

theorem canActivate_cases (expected : Option String) (provided : Option RequestHeader) :
    InternalApiKeyGuard.canActivate expected provided = .ok true ∨
      ∃ message, InternalApiKeyGuard.canActivate expected provided = .error (InternalApiKeyGuard.unauthorized message) := by
  unfold InternalApiKeyGuard.canActivate
  split
  · exact .inr ⟨_,rfl⟩
  · split
    · split
      · exact .inl rfl
      · exact .inr ⟨_,rfl⟩
    · exact .inr ⟨_,rfl⟩

/-- The POST routes of `/internal/outbox`, with the path parameter and the body as they are received. -/
inductive AdminRoute where
  | replayOne (id : String)
  | replayFailed (eventType : Option String)

structure AdminRequest where
  apiKey : Option RequestHeader
  route : AdminRoute

/-- `parseIntPipe` is what the framework makes of a path parameter: its number, or a rejection. -/
structure Deployment where
  relays : Settings
  internalApiKey : Service → Option String
  parseIntPipe : String → Except Thrown Nat

namespace Deployment

variable (deployment : Deployment)

def controller (service : Service) : AdminRoute → Program returningRows Unit
  | .replayOne id =>
      match deployment.parseIntPipe id with
      | .ok id => Task.program deployment.relays (.replayById service id)
      | .error error => .reject error
  | .replayFailed eventType => Task.program deployment.relays (.replayAllFailed service eventType)

def forbidden : Thrown := ⟨.error,"ForbiddenException","Forbidden resource",none,none⟩

/-- The guard stands before every route of the controller. -/
def handle (service : Service) (request : AdminRequest) : Program returningRows Unit :=
  match InternalApiKeyGuard.canActivate (deployment.internalApiKey service) request.apiKey with
  | .ok true => deployment.controller service request.route
  | .ok false => .reject forbidden
  | .error error => .reject error

end Deployment

/-- What launches programs in a deployment: its timers, its start and the requests of its operators. -/
inductive Duty where
  | runRelayTick (service : Service) (instanceId : String) (batchSize : Nat)
  | reapStaleLocks (service : Service)
  | assertTopology
  | request (service : Service) (request : AdminRequest)

def Duty.program (deployment : Deployment) : Duty → Program returningRows Unit
  | .runRelayTick service instanceId batchSize =>
      Task.program deployment.relays (.runRelayTick service instanceId batchSize)
  | .reapStaleLocks service => Task.program deployment.relays (.reapStaleLocks service)
  | .assertTopology => Task.program deployment.relays .assertTopology
  | .request service asked => deployment.handle service asked

abbrev DutyEvent := Happening Request Choice Thrown External Duty

def Unadmitted (deployment : Deployment) (_ : State) : DutyEvent → Prop
  | .starts (.request service request) => ¬ Admitted (deployment.internalApiKey service) request.apiKey
  | _ => True

def deployedWorld (deployment : Deployment) :
    World State Thrown Request (Reply returningRows) Choice External Duty :=
  outboxWorld (Duty.program deployment)

section requests
variable {deployment : Deployment}

theorem handle_unadmitted {service : Service} {request : AdminRequest}
    (unadmitted : ¬ Admitted (deployment.internalApiKey service) request.apiKey) :
    ∃ message, deployment.handle service request = .reject (InternalApiKeyGuard.unauthorized message) := by
  unfold Deployment.handle
  rcases canActivate_cases (deployment.internalApiKey service) request.apiKey with passed | ⟨message,refused⟩
  · exact absurd (canActivate_iff.mp passed) unadmitted
  · rw [refused]
    exact ⟨message,rfl⟩

theorem not_replays {request : Request} (asked : (request.claims ∨ request.delivers) ∨ request.reaps ∨ request.declares) :
    ¬ request.replays := by
  cases request with
  | query service statement =>
    cases statement with
    | replayOne _ | replayFailed _ => rcases asked with (no | no) | no | no <;> exact no.elim
    | claim _ _ | markSent _ _ | markFailed _ _ _ _ _ _ | reap _ => exact id
  | newDate | getChannel _ | inject _ | publish _ _ | waitForConfirms _ | fencedPublish _ | declare _ => exact id

/-- Only the controllers replay. -/
theorem Duty.program_settling {state : State} {duty : Duty} (unadmitted : Unadmitted deployment state (.starts duty)) :
    (settling.only (fun request => ¬ request.replays)).Follows (duty.program deployment) [] (fun _ _ => True) := by
  cases duty with
  | runRelayTick service instanceId batchSize =>
    refine (Task.program_settling deployment.relays (.runRelayTick service instanceId batchSize) []).only ?_
    exact (service.relay.runRelayTick_asks deployment.relays.engine instanceId batchSize).mono
      (fun _ asked => not_replays (.inl asked))
  | reapStaleLocks service =>
    refine (Task.program_settling deployment.relays (.reapStaleLocks service) []).only ?_
    exact (service.relay.reapStaleLocks_asks _).mono (fun _ asked => not_replays (.inr (.inl asked)))
  | assertTopology =>
    refine (Task.program_settling deployment.relays .assertTopology []).only ?_
    exact (Task.assertTopology_asks deployment.relays).mono (fun _ asked => not_replays (.inr (.inr asked)))
  | request service asked =>
    obtain ⟨message,refused⟩ := handle_unadmitted unadmitted
    have same : (Duty.request service asked).program deployment = _ := refused
    rw [same]
    trivial

/-- Without an admitted request a step leaves every failed row as it is. -/
theorem unadmitted_step {now : Int} {table : Service → OutboxTable} {broker : Amqp.Topology} {pool after : RelayPool}
    (reached : (deployedWorld deployment).Reach (Unadmitted deployment) (.initial now table broker) pool)
    {action : World.Action Choice Thrown External Duty} (taken : (deployedWorld deployment).step pool action = some after)
    {service : Service} {row : OutboxEvent} (member : row ∈ pool.shared.table service) (failed : row.status = .failed) :
    row ∈ after.shared.table service := by
  rcases failed_step (fun _ _ permitted => Duty.program_settling permitted) reached taken member failed with
    kept | ⟨_,_,statement,_,_,_,unnamed,resets,_⟩
  · exact kept
  · cases resets with
    | one => exact absurd trivial unnamed
    | all _ => exact absurd trivial unnamed

end requests

structure GatewayOutboxRowSummary where
  id : Nat
  eventType : String
  status : OutboxStatus
  attempts : Int
  maxAttempts : Int
  lastError : Option String
  correlationId : Option String
  eventId : Option String

/-- A row of `GatewayOutboxAdminService.listFailed`. -/
def OutboxEvent.summary (row : OutboxEvent) : GatewayOutboxRowSummary :=
  ⟨row.id,row.eventType,row.status,row.attempts,row.maxAttempts,row.lastError,row.correlationId,row.eventId⟩

def listFailed (table : OutboxTable) : List GatewayOutboxRowSummary :=
  ((table.rows.filter (fun row => row.status == .failed)).insertionSort (fun left right => left.id ≤ right.id)).map
    OutboxEvent.summary

theorem mem_listFailed {table : OutboxTable} {summary : GatewayOutboxRowSummary} :
    summary ∈ listFailed table ↔ ∃ row ∈ table, row.status = .failed ∧ row.summary = summary := by
  simp [listFailed,Table.mem_rows,and_assoc]

theorem failed_rows_stay {deployment : Deployment} {now : Int} {table : Service → OutboxTable} {broker : Amqp.Topology}
    {pool after : RelayPool}
    (reached : (deployedWorld deployment).Reach (Unadmitted deployment) (.initial now table broker) pool)
    (later : Machine.Reaches (deployedWorld deployment).step ((deployedWorld deployment).Permits (Unadmitted deployment))
      pool after) :
    ∀ service, ∀ row ∈ pool.shared.table service, row.status = .failed → row ∈ after.shared.table service := by
  induction later with
  | start => exact fun _ _ member _ => member
  | next before allowed taken ih =>
    intro service row member failed
    exact unadmitted_step (reached.trans before) taken (ih service row member failed) failed

/-- While no request carries the key of its service, what has failed stays as it is, and stays listed. -/
theorem failed_rows_await_key (deployment : Deployment) (now : Int) (table : Service → OutboxTable)
    (broker : Amqp.Topology) {pool after : RelayPool}
    (reached : (deployedWorld deployment).Reach (Unadmitted deployment) (.initial now table broker) pool)
    (later : Machine.Reaches (deployedWorld deployment).step ((deployedWorld deployment).Permits (Unadmitted deployment))
      pool after) :
    (∀ service, ∀ row ∈ pool.shared.table service, row.status = .failed → row ∈ after.shared.table service) ∧
    listFailed (pool.shared.table .gateway) ⊆ listFailed (after.shared.table .gateway) := by
  have kept := failed_rows_stay reached later
  refine ⟨kept,?_⟩
  intro summary listed
  obtain ⟨row,member,failed,same⟩ := mem_listFailed.mp listed
  exact mem_listFailed.mpr ⟨row,kept _ row member failed,failed,same⟩

theorem unadmitted_of_unset {deployment : Deployment}
    (unset : ∀ service key, deployment.internalApiKey service = some key → key = "") (state : State) (event : DutyEvent) :
    Unadmitted deployment state event := by
  cases event with
  | starts duty =>
    cases duty with
    | request service asked =>
      rintro ⟨key,set,given,_⟩
      exact given (unset service key set)
    | runRelayTick _ _ _ | reapStaleLocks _ | assertTopology => trivial
  | performs _ _ _ | crashes _ | external _ => trivial

/-- The guard fails closed: in a deployment that configures no key, whatever is requested, nothing is replayed. -/
theorem failed_rows_without_key {deployment : Deployment}
    (unset : ∀ service key, deployment.internalApiKey service = some key → key = "") (now : Int)
    (table : Service → OutboxTable) (broker : Amqp.Topology) {pool : RelayPool}
    (reached : (deployedWorld deployment).Reach (fun _ _ => True) (.initial now table broker) pool) (service : Service) :
    ∀ row ∈ table service, row.status = .failed → row ∈ pool.shared.table service := by
  intro row member failed
  have unadmitted : (deployedWorld deployment).Reach (Unadmitted deployment) (.initial now table broker) pool :=
    reached.mono (fun state event _ => unadmitted_of_unset unset state event)
  exact failed_rows_stay .start unadmitted service row member failed

instance (expected : Option String) (provided : Option RequestHeader) : Decidable (Admitted expected provided) :=
  decidable_of_iff (∃ key ∈ expected, key ≠ "" ∧ provided = some (.string key)) (by simp [Admitted])

def unadmitted (deployment : Deployment) : DutyEvent → Bool
  | .starts (.request service asked) => !decide (Admitted (deployment.internalApiKey service) asked.apiKey)
  | _ => true

instance (deployment : Deployment) (state : State) (event : DutyEvent) : Decidable (Unadmitted deployment state event) :=
  decidable_of_iff (unadmitted deployment event) (by
    cases event with
    | starts duty => cases duty <;> simp [unadmitted,Unadmitted]
    | performs _ _ _ | crashes _ | external _ => simp [unadmitted,Unadmitted])

def sampleDeployment : Deployment := ⟨sampleSettings,fun _ => some "k-1",fun _ => .ok 1⟩

/-- A row fails, and somebody asks for its replay with another key and with none. -/
def strangersAsk : List (World.Action Choice Thrown External Duty) := [
  .start (.request .gateway ⟨some (.string "k-2"),.replayOne "1"⟩),
  .start (.request .gateway ⟨none,.replayFailed none⟩),
  .start (.runRelayTick .gateway "b" 25),
  .resume 3 (.served { scan := [1] })]

def commandFails : List (World.Action Choice Thrown External Duty) := [
  .external (.insert .gateway { sampleCommand with maxAttempts := 1 } 0),
  .start (.runRelayTick .gateway "a" 25),
  .resume 0 (.served { scan := [1] }),
  .resume 0 (.refused (.ofMessage "Connection closed")),
  .resume 0 (.served {}),
  .resume 0 (.served {}),
  .resume 0 (.served {})]

def runDeployed (pool : RelayPool) (actions : List (World.Action Choice Thrown External Duty)) : Option RelayPool :=
  Machine.run (deployedWorld sampleDeployment).step pool actions

set_option maxRecDepth 4000 in
theorem strangers_replay_nothing : ∃ pool after, runDeployed (World.empty sampleState) commandFails = some pool ∧
    runDeployed pool strangersAsk = some after ∧
    ∃ row ∈ pool.shared.table .gateway, row.status = .failed ∧ row ∈ after.shared.table .gateway := by
  let pool := (runDeployed (World.empty sampleState) commandFails).get (by decide +kernel)
  let after := (runDeployed pool strangersAsk).get (by decide +kernel)
  have ran : runDeployed (World.empty sampleState) commandFails = some pool := (Option.some_get _).symm
  have further : runDeployed pool strangersAsk = some after := (Option.some_get _).symm
  have reached : (deployedWorld sampleDeployment).Reach (Unadmitted sampleDeployment) sampleState pool :=
    Machine.run_reaches ran (by decide +kernel)
  have later : Machine.Reaches (deployedWorld sampleDeployment).step
      ((deployedWorld sampleDeployment).Permits (Unadmitted sampleDeployment)) pool after :=
    Machine.run_reaches further (by decide +kernel)
  have present : ∃ row ∈ (pool.shared.table .gateway).rows, row.status = .failed := by decide +kernel
  obtain ⟨row,member,failed⟩ := present
  exact ⟨pool,after,ran,further,row,member,failed,
    (failed_rows_await_key sampleDeployment 0 _ _ reached later).1 .gateway row member failed⟩

end MessagingPlatform.Outbox
