import MessagingPlatform.Lib.Pool
import MessagingPlatform.Contracts.Events
import MessagingPlatform.Lifecycle.Subscriber

/-! `EventLifecyclePublisher`: its `publish`, `connect` and `close` as promise programs over the three
fields that they share and over the connections and channels that they make. A request is what runs
between two points where another program may come in. -/
namespace MessagingPlatform.Lifecycle

structure EventLifecycleRecord where
  stage : EventLifecycleStage
  eventType : String
  eventId : String
  correlationId : String
  errors : Option (List ValidationFailureDetail) := none

/-- `fullRecord` in `publish`. -/
def EventLifecycleRecord.full (record : EventLifecycleRecord) (service : String) (now : Int) : Json :=
  .ofFields [
    ("stage",some (.str record.stage.name)),
    ("eventType",some (.str record.eventType)),
    ("eventId",some (.str record.eventId)),
    ("correlationId",some (.str record.correlationId)),
    ("errors",record.errors.map (fun errors => .arr (errors.map (fun error =>
      .ofFields [("path",some (.str error.path)),("message",some (.str error.message))])))),
    ("service",some (.str service)),
    ("timestamp",some (.str (toIsoString now)))]

/-- `ensureChannel` has its result at once, or it awaits an attempt to connect. -/
inductive Ensured where
  | ready (channel : Option Nat)
  | pending (attempt : Nat)

inductive PublisherRequest where
  /-- `ensureChannel` up to its await. -/
  | ensureChannel
  /-- `await this.connecting; return this.channel`. -/
  | connecting (attempt : Nat)
  | publish (channel : Nat) (record : EventLifecycleRecord)
  | onError (error : Thrown)
  | connect
  | createChannel
  | assertExchange
  /-- The fields `channel` and `connection` become undefined. -/
  | abandon
  /-- The promise that `connect` has returned resolves. -/
  | resolved (attempt : Nat)
  | closeChannel
  | closeConnection

abbrev PublisherReply : PublisherRequest → Type
  | .ensureChannel => Ensured
  | .connecting _ => Option Nat
  | _ => Unit

abbrev PublisherProgram (Value : Type) := Async Thrown PublisherRequest PublisherReply Value

namespace EventLifecyclePublisher

def request (request : PublisherRequest) : PublisherProgram (PublisherReply request) := Async.call request

def ensureChannel : PublisherProgram (Option Nat) := do
  let ensured ← request .ensureChannel
  match ensured with
  | .ready channel => pure channel
  | .pending attempt => request (.connecting attempt)

def connect (attempt : Nat) : PublisherProgram Unit := do
  Async.tryCatch (do
      request .connect
      request .createChannel
      request .assertExchange)
    (fun error => do
      request (.onError error)
      request .abandon)
  request (.resolved attempt)

def publish (record : EventLifecycleRecord) : PublisherProgram Unit := do
  let channel ← ensureChannel
  match channel with
  | none => pure ()
  | some channel => Async.tryCatch (request (.publish channel record)) (fun error => request (.onError error))

def close : PublisherProgram Unit :=
  Async.tryCatch (do
      request .closeChannel
      request .closeConnection)
    (fun _ => pure ())

end EventLifecyclePublisher

inductive ConnectAttempt where
  | unstarted
  | started (pid : Nat)
  | settled
deriving DecidableEq

structure LifecycleChannel where
  connection : Nat
  isOpen : Bool

structure Emission where
  pid : Nat
  channel : Nat
  body : Body

/-- The fields of the publisher, and around them what its programs have made. -/
structure PublisherState where
  channel : Option Nat
  connection : Option Nat
  connecting : Option Nat
  attempts : List ConnectAttempt
  connections : List Bool
  channels : List LifecycleChannel
  wire : List Emission
  reported : List Thrown
  /-- The record that a program was called with. -/
  called : Nat → Option EventLifecycleRecord

/-- `tracing` is whether EVENT_LIFECYCLE_TRACING is `true`. -/
structure PublisherSettings where
  tracing : Bool
  service : String

inductive PublisherTask where
  | publish (record : EventLifecycleRecord)
  | connect (attempt : Nat)
  | close

inductive PublisherExternal where
  | connectionClosed (connection : Nat)
  | channelClosed (channel : Nat)

namespace PublisherState

variable (state : PublisherState)

def initial : PublisherState := ⟨none,none,none,[],[],[],[],[],fun _ => none⟩

def channelOpen (channel : Nat) : Bool := state.channels[channel]?.any LifecycleChannel.isOpen

def connectionOpen (connection : Nat) : Bool := state.connections[connection]?.any id

def shutChannel (channel : Nat) : PublisherState :=
  { state with channels := state.channels.modify channel (fun made => { made with isOpen := false }) }

def shutConnection (connection : Nat) : PublisherState :=
  { state with
    connections := state.connections.modify connection (fun _ => false)
    channels := state.channels.map (fun made =>
      if made.connection = connection then { made with isOpen := false } else made) }

def illegalOperation (text : String) : Thrown := ⟨.error,"IllegalOperationError",text,none,none⟩

def ensureChannel (settings : PublisherSettings) : Ensured × PublisherState :=
  if settings.tracing then
    match state.channel with
    | some channel => (.ready (some channel),state)
    | none =>
        match state.connecting with
        | some attempt => (.pending attempt,state)
        | none => (.pending state.attempts.length,{ state with
            connecting := some state.attempts.length
            attempts := state.attempts ++ [.unstarted] })
  else (.ready none,state)

/-- A channel or a connection that is closed throws when it is closed again. -/
def serve (settings : PublisherSettings) (pid : Nat) : (request : PublisherRequest) → (now : Int) →
    Option (Except Thrown (PublisherReply request) × PublisherState)
  | .ensureChannel, _ => some (.ok (state.ensureChannel settings).1,(state.ensureChannel settings).2)
  | .connecting attempt, _ =>
      if state.attempts[attempt]? = some .settled then some (.ok state.channel,state) else none
  | .publish channel record, now =>
      if state.channelOpen channel then
        some (.ok (),{ state with
          wire := state.wire ++ [⟨pid,channel,.stringify (record.full settings.service now)⟩] })
      else some (.error (illegalOperation "Channel closed"),state)
  | .onError error, _ => some (.ok (),{ state with reported := state.reported ++ [error] })
  | .connect, _ => some (.ok (),{ state with
      connection := some state.connections.length
      connections := state.connections ++ [true] })
  | .createChannel, _ =>
      match state.connection with
      | some connection => some (.ok (),{ state with
          channel := some state.channels.length
          channels := state.channels ++ [⟨connection,state.connectionOpen connection⟩] })
      | none => some (.error (typeError "undefined" "createChannel"),state)
  | .assertExchange, _ =>
      match state.channel with
      | some channel =>
          if state.channelOpen channel then some (.ok (),state)
          else some (.error (illegalOperation "Channel closed"),state)
      | none => some (.error (typeError "undefined" "assertExchange"),state)
  | .abandon, _ => some (.ok (),{ state with channel := none, connection := none })
  | .resolved attempt, _ => some (.ok (),{ state with attempts := state.attempts.set attempt .settled })
  | .closeChannel, _ =>
      match state.channel with
      | some channel =>
          if state.channelOpen channel then some (.ok (),state.shutChannel channel)
          else some (.error (illegalOperation "Channel closed"),state)
      | none => some (.ok (),state)
  | .closeConnection, _ =>
      match state.connection with
      | some connection =>
          if state.connectionOpen connection then some (.ok (),state.shutConnection connection)
          else some (.error (illegalOperation "Connection closed"),state)
      | none => some (.ok (),state)

def external : PublisherExternal → Option PublisherState
  | .connectionClosed connection => some (state.shutConnection connection)
  | .channelClosed channel => some (state.shutChannel channel)

/-- `ensureChannel` calls `connect` where it makes an attempt; anybody may call `publish` and `close`. -/
def start (pid : Nat) : PublisherTask → Option (PublisherProgram Unit × PublisherState)
  | .publish record => some (EventLifecyclePublisher.publish record,
      { state with called := Function.update state.called pid (some record) })
  | .connect attempt =>
      if state.attempts[attempt]? = some .unstarted then
        some (EventLifecyclePublisher.connect attempt,
          { state with attempts := state.attempts.set attempt (.started pid) })
      else none
  | .close => some (EventLifecyclePublisher.close,state)

end PublisherState

def PublisherRequest.fails : PublisherRequest → Bool
  | .connect | .createChannel | .assertExchange | .closeChannel | .closeConnection => true
  | .ensureChannel | .connecting _ | .publish _ _ | .onError _ | .abandon | .resolved _ => false

abbrev PublisherWorld :=
  World PublisherState Thrown PublisherRequest PublisherReply Int PublisherExternal PublisherTask

def publisherWorld (settings : PublisherSettings) : PublisherWorld where
  serve state := state.serve settings
  fails request _ := request.fails
  crash state _ := state
  external := PublisherState.external
  start := PublisherState.start

abbrev PublisherPool := Pool PublisherState Thrown PublisherRequest PublisherReply

abbrev PublisherAction := World.Action Int Thrown PublisherExternal PublisherTask

abbrev PublisherHappening := Happening PublisherRequest Int Thrown PublisherExternal PublisherTask

def whatever (_ : PublisherState) (_ : PublisherHappening) : Prop := True

instance (state : PublisherState) (event : PublisherHappening) : Decidable (whatever state event) :=
  .isTrue trivial

end MessagingPlatform.Lifecycle
