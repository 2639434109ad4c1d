import MessagingPlatform.Lib.Pool
import MessagingPlatform.Lib.Table
import MessagingPlatform.Consumer.Handler
import MessagingPlatform.Consumer.Transport

/-! Any number of consumer instances over one database and one broker with the declared topology.
A delivery is a program of its own; it can crash between any two calls. Each has its own
connection, and the database rolls back a transaction whose connection is gone. -/
namespace MessagingPlatform.Consumer

inductive TransactionStatus where
  | active
  | committed
  | rolledBack
deriving DecidableEq

/-- A transaction and what it has inserted. The inserts are visible once it has committed. -/
structure Transaction where
  pid : Nat
  status : TransactionStatus
  ledger : List IdempotencyInput
  messages : List Message
  outbox : List NewOutboxEvent

namespace Transaction

def activeOf (pid : Nat) (transaction : Transaction) : Bool :=
  transaction.pid == pid && transaction.status == .active

def records (eventId : String) (transaction : Transaction) : Bool :=
  transaction.ledger.any (fun row => row.eventId == eventId)

end Transaction

structure Envelope where
  body : Body
  headers : Headers
  routingKey : String

/-- A message in a queue, ready or handed to a consumer. Messages are numbered as they are
enqueued, and keep their tag when they are requeued or dead-lettered. -/
structure Copy where
  tag : Nat
  queue : String
  unackedBy : Option Nat
deriving DecidableEq

inductive Fate where
  | inFlight
  | enqueued
  | rejected
deriving DecidableEq

/-- A retry copy on a confirm channel; tags below `since` were given out before it was written. -/
structure RetryPublish where
  publisher : Nat
  channel : Nat
  publication : Publication
  since : Nat
  fate : Fate

structure State where
  transactions : Table Transaction Transaction.pid
  nextMessageId : Nat
  attempts : String → Int
  /-- Every message that was ever enqueued; its position is its tag. -/
  envelopes : List Envelope
  copies : List Copy
  publishes : List RetryPublish
  /-- What `DlqConsumerService` has logged and acked. -/
  logged : List Copy
  /-- The tag that each program was started for. -/
  delivered : Nat → Option Nat

structure Settings where
  engine : Engine
  zod : Schema.Library

/-- Everything that the environment decides when it serves a request. An ack or nack that is not
received is lost with its channel. -/
structure Choice where
  carrier : TraceCarrier := []
  instant : Int := 0
  uuid : String := ""
  channel : Nat := 0
  accepted : Bool := true
  received : Bool := true

inductive External where
  | enqueue (body : Body) (headers : Headers)
  | route (index : Nat)
  | reject (index : Nat)
  | requeue (tag : Nat)
  | expire (tag : Nat)
  | rejectUnmatched (tag : Nat)
  | handleTestRabbit (tag : Nat) (acked : Bool)
  | logDlq (tag : Nat)
  | abort (pid : Nat)

inductive Task where
  | deliver (tag : Nat)

def eventIdOf (settings : Settings) (body : Body) (headers : Headers) : Option String :=
  match dispatch body with
  | some (.handleMessage,data) =>
      match MessagingController.validate settings.engine settings.zod headers data with
      | .ok event => some event.eventId
      | .error _ => none
  | _ => none

def traceHeaders : List String := ["traceparent","tracestate","baggage"]

def uniqueViolation : Thrown :=
  ⟨.error,"QueryFailedError",
    "duplicate key value violates unique constraint on processed_events (event_id)",
    some "23505",some "23505"⟩

namespace State

def modify (state : State) (pid : Nat) (set : Transaction → Transaction)
    (keepsPid : ∀ transaction, (set transaction).pid = transaction.pid) : State :=
  { state with transactions := state.transactions.apply ⟨Transaction.activeOf pid,set,keepsPid⟩ }

def active (state : State) (pid : Nat) : Bool :=
  state.transactions.rows.any (Transaction.activeOf pid)

def recorded (state : State) (eventId : String) (holds : Transaction → Bool) : Bool :=
  state.transactions.rows.any (fun transaction => holds transaction && transaction.records eventId)

/-- The insert into `processed_events`: it fails on a row that is committed or the transaction's
own, and waits for another transaction that inserted one. -/
def saveProcessedEvent (state : State) (pid : Nat) (row : IdempotencyInput) :
    Option (Except Thrown Unit × State) :=
  if state.active pid then
    if state.recorded row.eventId (fun transaction =>
        transaction.status == .committed || transaction.activeOf pid) then
      some (.error uniqueViolation,state)
    else if state.recorded row.eventId (fun transaction => transaction.status == .active) then none
    else some (.ok (),state.modify pid
      (fun transaction => { transaction with ledger := transaction.ledger ++ [row] }) (fun _ => rfl))
  else none

def replace (state : State) (moves : Copy → Bool) (targets : Copy → List Copy) : State :=
  { state with copies := state.copies.flatMap (fun copy => if moves copy then targets copy else [copy]) }

def routingKey (state : State) (tag : Nat) : String :=
  (state.envelopes[tag]?.map Envelope.routingKey).getD ""

def deadLettered (state : State) (copy : Copy) : List Copy :=
  (declaredTopology.deadLetter copy.queue (state.routingKey copy.tag)).1.map (fun queue =>
    ⟨copy.tag,queue,none⟩)

def heldBy (pid : Nat) (copy : Copy) : Bool := copy.unackedBy == some pid

def settle (state : State) (pid : Nat) (received : Bool) (targets : Copy → List Copy) :
    Option (Except Thrown Unit × State) :=
  if state.copies.any (heldBy pid) then
    some (.ok (),if received then state.replace (heldBy pid) targets else state)
  else none

/-- `waitForConfirms` resolves only after the broker has taken what the program published on the
channel; other publishes on it may have failed earlier. -/
def confirmed (state : State) (pid channel : Nat) : Bool :=
  state.publishes.all (fun published => published.publisher != pid || published.channel != channel ||
    published.fate == .enqueued)

def serve (state : State) (pid : Nat) : (request : Request) → Choice →
    Option (Except Thrown (Reply request) × State)
  | .lifecycle _, _ | .connect, _ | .release, _ | .count _, _ => some (.ok (),state)
  | .recordAttempt eventId, _ =>
      let attempts := state.attempts eventId + 1
      some (.ok [attempts],{ state with attempts := Function.update state.attempts eventId attempts })
  | .clearAttempts eventId, _ =>
      some (.ok (),{ state with attempts := Function.update state.attempts eventId 0 })
  | .startTransaction, _ =>
      if fresh : pid ∉ state.transactions.keys then
        some (.ok (),{ state with
          transactions := state.transactions.insert ⟨pid,.active,[],[],[]⟩ fresh })
      else none
  | .saveProcessedEvent row, _ => state.saveProcessedEvent pid row
  | .saveMessage row, _ =>
      let message : Message := ⟨state.nextMessageId,row.title,row.content,row.sender⟩
      if state.active pid then
        some (.ok message,{ state.modify pid (fun transaction =>
          { transaction with messages := transaction.messages ++ [message] }) (fun _ => rfl) with
            nextMessageId := state.nextMessageId + 1 })
      else none
  | .saveOutboxEvent row, _ =>
      if state.active pid then
        some (.ok (),state.modify pid (fun transaction =>
          { transaction with outbox := transaction.outbox ++ [row] }) (fun _ => rfl))
      else none
  | .commitTransaction, _ =>
      if state.active pid then
        some (.ok (),state.modify pid (fun transaction => { transaction with status := .committed })
          (fun _ => rfl))
      else none
  | .rollbackTransaction, _ =>
      some (.ok (),state.modify pid (fun transaction => { transaction with status := .rolledBack })
        (fun _ => rfl))
  | .newDate, choice => some (.ok choice.instant,state)
  | .randomUUID, choice => some (.ok choice.uuid,state)
  | .inject, choice =>
      if choice.carrier.all (fun entry => entry.1 ∈ traceHeaders) then some (.ok choice.carrier,state)
      else none
  | .getChannel, choice => some (.ok choice.channel,state)
  | .publish channel publication, choice =>
      some (.ok choice.accepted,{ state with
        publishes := state.publishes ++ [⟨pid,channel,publication,state.envelopes.length,.inFlight⟩] })
  | .waitForConfirms channel, _ => if state.confirmed pid channel then some (.ok (),state) else none
  | .ack, choice => state.settle pid choice.received (fun _ => [])
  | .nack true, choice => state.settle pid choice.received (fun copy => [{ copy with unackedBy := none }])
  | .nack false, choice => state.settle pid choice.received state.deadLettered

def enqueue (state : State) (queues : List String) (envelope : Envelope) : State :=
  { state with
    envelopes := state.envelopes ++ [envelope]
    copies := state.copies ++ queues.map (fun queue => ⟨state.envelopes.length,queue,none⟩) }

def settlePublish (state : State) (index : Nat) (published : RetryPublish) (fate : Fate) : State :=
  { state with publishes := state.publishes.set index { published with fate } }

def readyIn (queue : String) (tag : Nat) (copy : Copy) : Bool :=
  copy.tag == tag && copy.queue == queue && copy.unackedBy.isNone

def handlerOf (state : State) (tag : Nat) : Option (Handler × Option Json) :=
  state.envelopes[tag]?.bind (fun envelope => dispatch envelope.body)

def external (state : State) : External → Option State
  | .enqueue body headers =>
      (declaredTopology.route Exchanges.main RoutingKeys.work).map (fun queues =>
        state.enqueue queues ⟨body,headers,RoutingKeys.work⟩)
  | .route index =>
      match state.publishes[index]? with
      | some published =>
          if published.fate = .inFlight then
            match declaredTopology.route published.publication.exchange
                published.publication.routingKey with
            | some queues => some ((state.settlePublish index published .enqueued).enqueue queues
                ⟨published.publication.body,published.publication.headers,
                  published.publication.routingKey⟩)
            | none => some (state.settlePublish index published .rejected)
          else none
      | none => none
  | .reject index =>
      match state.publishes[index]? with
      | some published =>
          if published.fate = .inFlight then some (state.settlePublish index published .rejected) else none
      | none => none
  | .requeue tag =>
      some (state.replace (fun copy => copy.tag == tag) (fun copy => [{ copy with unackedBy := none }]))
  | .expire tag => some (state.replace (readyIn Queues.retry tag) state.deadLettered)
  | .rejectUnmatched tag =>
      if state.handlerOf tag = none then
        some (state.replace (readyIn Queues.work tag) state.deadLettered)
      else none
  | .handleTestRabbit tag acked =>
      if (state.handlerOf tag).map Prod.fst = some .handleTestRabbit then
        some (state.replace (readyIn Queues.work tag) (if acked then fun _ => [] else state.deadLettered))
      else none
  | .logDlq tag =>
      let found := state.copies.filter (readyIn Queues.dlq tag)
      some { state.replace (readyIn Queues.dlq tag) (fun _ => []) with logged := state.logged ++ found }
  | .abort pid =>
      some (state.modify pid (fun transaction => { transaction with status := .rolledBack }) (fun _ => rfl))

def deliver (settings : Settings) (state : State) (pid tag : Nat) : Option (Program Unit × State) :=
  match state.envelopes[tag]?, state.handlerOf tag with
  | some envelope, some (.handleMessage,data) =>
      if state.copies.any (readyIn Queues.work tag) then
        some (MessagingController.handleMessage settings.engine settings.zod
            ⟨envelope.body,envelope.headers,data⟩,
          { state.replace (readyIn Queues.work tag) (fun copy => [{ copy with unackedBy := some pid }]) with
            delivered := Function.update state.delivered pid (some tag) })
      else none
  | _, _ => none

def initial : State := ⟨.empty,1,fun _ => 0,[],[],[],[],fun _ => none⟩

end State

/-- The ledger insert rejects with a unique violation only when the index holds the row. -/
def Request.fails : Request → Thrown → Bool
  | .saveProcessedEvent _, error => !isUniqueViolation error
  | _, _ => true

abbrev ConsumerWorld := World State Thrown Request Reply Choice External Task

def consumerWorld (settings : Settings) : ConsumerWorld where
  serve := State.serve
  fails := Request.fails
  crash state _ := state
  external := State.external
  start state pid
    | .deliver tag => state.deliver settings pid tag

abbrev ConsumerPool := Pool State Thrown Request Reply

abbrev ConsumerAction := World.Action Choice Thrown External Task

abbrev Happened := Happening Request Choice Thrown External Task

def anything (_ : State) (_ : Happened) : Prop := True

instance (state : State) (event : Happened) : Decidable (anything state event) := .isTrue trivial

namespace State

variable (settings : Settings) (state : State)

def carriedBy (tag : Nat) : Option String :=
  state.envelopes[tag]?.bind (fun envelope => eventIdOf settings envelope.body envelope.headers)

def deliveredEvent (pid : Nat) : Option String := (state.delivered pid).bind (state.carriedBy settings)

def committed : List Transaction :=
  state.transactions.rows.filter (fun transaction => transaction.status == .committed)

def processedEvents (eventId : String) : List IdempotencyInput :=
  (state.committed.flatMap Transaction.ledger).filter (fun row => row.eventId == eventId)

def committedFor (eventId : String) : List Transaction :=
  state.committed.filter (fun transaction => state.deliveredEvent settings transaction.pid == some eventId)

def messagesFor (eventId : String) : List Message :=
  (state.committedFor settings eventId).flatMap Transaction.messages

def persistedFor (eventId : String) : List NewOutboxEvent :=
  ((state.committedFor settings eventId).flatMap Transaction.outbox).filter
    (fun row => row.eventType == "MessagePersisted")

end State

end MessagingPlatform.Consumer
