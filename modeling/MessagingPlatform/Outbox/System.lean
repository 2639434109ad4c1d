import MessagingPlatform.Lib.Pool
import MessagingPlatform.Outbox.Relay

/-! Any number of relay instances, reapers and operators over the two outbox tables and one
broker. Statements are atomic and promises may reject before or after their statement took
effect. The history records claims and settlements; no step reads it. -/
namespace MessagingPlatform.Outbox
open Driver

structure Token where
  service : Service
  id : Nat
  version : Int
deriving DecidableEq

structure Holding where
  token : Token
  pid : Nat
  since : Int
deriving DecidableEq

structure Recorded where
  id : Nat
  eventType : String
  payload : Json
  correlationId : Option String
  maxAttempts : Int
  eventId : Option String
  traceContext : Option TraceCarrier

def OutboxEvent.recorded (row : OutboxEvent) : Recorded :=
  ⟨row.id,row.eventType,row.payload,row.correlationId,row.maxAttempts,row.eventId,row.traceContext⟩

def Recorded.row (recorded : Recorded) (now : Int) : OutboxEvent where
  id := recorded.id
  eventType := recorded.eventType
  payload := recorded.payload
  correlationId := recorded.correlationId
  status := .pending
  attempts := 0
  lastError := none
  sentAt := none
  lockedAt := none
  lockedBy := none
  nextRetryAt := now
  maxAttempts := recorded.maxAttempts
  eventId := recorded.eventId
  lockVersion := 0
  traceContext := recorded.traceContext

inductive Fate where
  | inFlight
  | enqueued (queues : List String)
  | rejected
deriving DecidableEq

/-- A message written to a confirm channel, and what the broker did with it so far. -/
structure Published where
  channel : Nat
  publication : Publication
  fate : Fate

def Published.acked (published : Published) : Bool :=
  match published.fate with
  | .enqueued _ => true
  | .inFlight | .rejected => false

structure History where
  recorded : List (Service × Recorded)
  /-- The claims in their order, with the claiming process. -/
  claims : List (Token × Nat)
  /-- The claims that are not settled yet. -/
  held : List Holding
  /-- The claims whose own `markSent` took effect. -/
  sent : List Token

structure State where
  now : Int
  table : Service → OutboxTable
  broker : Amqp.Topology
  publishes : List Published
  fenced : Service → Nat
  history : History

/-- Everything that the environment decides when it serves a request. -/
structure Choice where
  scan : List Nat := []
  channel : Nat := 0
  accepted : Bool := true
  carrier : TraceCarrier := []
  instant : Int := 0

inductive External where
  | elapse (ms : Nat)
  | insert (service : Service) (recorded : Recorded) (nextRetryAt : Int)
  | route (index : Nat)
  | reject (index : Nat)

inductive Task where
  | runRelayTick (service : Service) (instanceId : String) (batchSize : Nat)
  | reapStaleLocks (service : Service)
  | replayById (service : Service) (id : Nat)
  | replayAllFailed (service : Service) (eventType : Option String)
  | assertTopology

structure Settings where
  engine : Engine
  lockTtlMs : Service → Int

def OutboxEvent.token (service : Service) (row : OutboxEvent) : Token :=
  ⟨service,row.id,row.lockVersion⟩

namespace History

/-- `rows` are the rows that the statement returned. -/
def note (history : History) (pid : Nat) (now : Int) (service : Service) (rows : List OutboxEvent) :
    Statement → History
  | .claim _ _ => { history with
      claims := history.claims ++ rows.map (fun row => (row.token service,pid))
      held := history.held ++ rows.map (fun row => ⟨row.token service,pid,now⟩) }
  | .markSent id version => { history with
      held := history.held.filter (fun holding => holding.token != ⟨service,id,version⟩)
      sent := history.sent ++ rows.map (OutboxEvent.token service) }
  | .markFailed _ _ _ _ id version => { history with
      held := history.held.filter (fun holding => holding.token != ⟨service,id,version⟩) }
  | .reap _ | .replayOne _ | .replayFailed _ => history

end History

namespace State

def execute (state : State) (pid : Nat) (service : Service) (statement : Statement)
    (update : Update OutboxEvent OutboxEvent.id) : State :=
  { state with
    table := Function.update state.table service ((state.table service).apply update)
    history := state.history.note pid state.now service ((state.table service).returning update) statement }

/-- `waitForConfirms` resolves only if every earlier publish on the channel was acked. -/
def confirmed (state : State) (channel : Nat) : Bool :=
  state.publishes.all (fun published => published.channel != channel || published.acked)

def serve {driver : Driver} (state : State) (pid : Nat) : (request : Request) → Choice →
    Option (Except Thrown (Reply driver request) × State)
  | .query service statement, choice =>
      (statement.update (state.table service) state.now choice.scan).map (fun update =>
        (.ok (driver.result (statement.returned ((state.table service).returning update))),
          state.execute pid service statement update))
  | .getChannel _, choice => some (.ok choice.channel,state)
  | .inject _, choice => some (.ok choice.carrier,state)
  | .publish channel publication, choice =>
      some (.ok choice.accepted,
        { state with publishes := state.publishes ++ [⟨channel,publication,.inFlight⟩] })
  | .waitForConfirms channel, _ => if state.confirmed channel then some (.ok (),state) else none
  | .newDate, choice => some (.ok choice.instant,state)
  | .fencedPublish service, _ =>
      some (.ok (),{ state with fenced := Function.update state.fenced service (state.fenced service + 1) })
  | .declare declaration, _ =>
      (state.broker.declare declaration).map (fun broker => (.ok (),{ state with broker }))

/-- The broker handles a publish that is on its way. A missing exchange closes the channel; an
exchange without a matching binding confirms the message and drops it. -/
def routed (state : State) (published : Published) : Fate :=
  match state.broker.route published.publication.exchange published.publication.routingKey with
  | none => .rejected
  | some queues => .enqueued queues

def settlePublish (state : State) (index : Nat) (fate : Published → Fate) : Option State :=
  match state.publishes[index]? with
  | some published =>
      if published.fate = .inFlight then
        some { state with publishes := state.publishes.set index { published with fate := fate published } }
      else none
  | none => none

def external (state : State) : External → Option State
  | .elapse ms => some { state with now := state.now + ms }
  | .insert service recorded nextRetryAt =>
      if fresh : recorded.id ∉ (state.table service).keys then
        some { state with
          table := Function.update state.table service
            ((state.table service).insert (recorded.row nextRetryAt) fresh)
          history.recorded := state.history.recorded ++ [(service,recorded)] }
      else none
  | .route index => state.settlePublish index state.routed
  | .reject index => state.settlePublish index (fun _ => .rejected)

end State

def Task.program {driver : Driver} (settings : Settings) : Task → Program driver Unit
  | .runRelayTick service instanceId batchSize =>
      service.relay.runRelayTick (service.relay.publishElement settings.engine) instanceId batchSize
  | .reapStaleLocks service => service.relay.reapStaleLocks (settings.lockTtlMs service)
  | .replayById .messaging id => (OutboxAdminService.replayById id).bind (fun _ => .resolve ())
  | .replayById .gateway id => (GatewayOutboxAdminService.replayById id).bind (fun _ => .resolve ())
  | .replayAllFailed .messaging eventType =>
      (OutboxAdminService.replayAllFailed eventType).bind (fun _ => .resolve ())
  | .replayAllFailed .gateway eventType =>
      (GatewayOutboxAdminService.replayAllFailed eventType).bind (fun _ => .resolve ())
  | .assertTopology => TopologyService.assertTopology

/-- Only database and broker calls reject. -/
def Request.fails : Request → Bool
  | .query _ _ | .getChannel _ | .publish _ _ | .waitForConfirms _ | .declare _ => true
  | .inject _ | .newDate | .fencedPublish _ => false

def relayWorld (driver : Driver) (settings : Settings) :
    World State Thrown Request (Reply driver) Choice External Task where
  serve := State.serve
  fails request _ := request.fails
  crash state _ := state
  external := State.external
  start state _ task := some (task.program settings,state)

abbrev RelayPool := Pool State Thrown Request (Reply returningRows)

abbrev RelayEvent := Happening Request Choice Thrown External Task

abbrev RelayAction := World.Action Choice Thrown External Task

def State.initial (now : Int) (table : Service → OutboxTable) (broker : Amqp.Topology) : State :=
  ⟨now,table,broker,[],fun _ => 0,⟨[],[],[],[]⟩⟩

def sampleSettings : Settings := ⟨⟨fun _ => .nan,fun _ => ""⟩,fun _ => 60000⟩

def sampleState : State := .initial 0 (fun _ => Table.empty) (declaredPrefix 13)

def sampleCommand : Recorded :=
  ⟨1,"CreateMessageEvent.v1",.obj [("type",.str "CreateMessageEvent.v1")],some "c-1",5,some "e-1",none⟩

def sampleRun (actions : List RelayAction) : Option RelayPool :=
  Machine.run (relayWorld returningRows sampleSettings).step (World.empty sampleState) actions

end MessagingPlatform.Outbox
