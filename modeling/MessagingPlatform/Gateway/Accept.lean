import MessagingPlatform.Lib.Protocol
import MessagingPlatform.Consumer.Handler
import MessagingPlatform.Gateway.Framing

/-! The producer routes of the gateway: an event is built, validated and recorded in one
transaction before the request is answered. Logging, timers and spans are left out; counters are
kept. The database answers one request at a time and may fail at any of them. -/
namespace MessagingPlatform.Gateway
open Outbox Schema

inductive ProducerStage where
  | emitted
  | rejected
deriving DecidableEq

structure ProducerRecord where
  stage : ProducerStage
  eventType : String
  eventId : String
  correlationId : Option String
  errors : Option (List ValidationFailureDetail) := none

inductive ProducerMetric where
  | messagesProcessed (eventType outcome : String)
  | messagesFailed (eventType : String) (errorClass : Consumer.ErrorClass)

structure ContractViolation where
  status : String := "rejected"
  reason : String := "event_contract_violation"
  eventType : String
  eventId : String
  errors : List ValidationFailureDetail

inductive RequestFailure where
  | badRequest (response : ContractViolation)
  | thrown (error : Thrown)

inductive Request where
  | randomUUID
  | newDate
  | inject
  | lifecycle (record : ProducerRecord)
  | count (metric : ProducerMetric)
  | connect
  | startTransaction
  | saveOutboxEvent (row : Consumer.NewOutboxEvent)
  | commitTransaction
  | rollbackTransaction
  | release

abbrev Reply : Request → Type
  | .randomUUID => String
  | .newDate => Int
  | .inject => TraceCarrier
  | .saveOutboxEvent _ => OutboxEvent
  | _ => Unit

abbrev Program (Value : Type) := Async RequestFailure Request Reply Value

def request (request : Request) : Program (Reply request) := Async.call request

namespace GatewayOutboxTransactionService

def newOutboxEvent (event : GatewayOutboxEventInput) (randomUUID : String) (now : Int)
    (traceContext : TraceCarrier) : Consumer.NewOutboxEvent where
  eventId := event.eventId.getD randomUUID
  eventType := event.eventType
  payload := event.payload
  correlationId := event.correlationId
  nextRetryAt := now
  maxAttempts := event.maxAttempts.getD 5
  traceContext := if traceContext.length > 0 then some traceContext else none

/-- The private `insertOutboxEvent`; an id is drawn only for an event without one. -/
def saveOutboxEvent (event : GatewayOutboxEventInput) : Program OutboxEvent := do
  let now ← request .newDate
  let traceContext ← request .inject
  let eventId ← match event.eventId with
    | some eventId => pure eventId
    | none => request .randomUUID
  request (.saveOutboxEvent (newOutboxEvent event eventId now traceContext))

def runWithOutboxEvent (work : Program Unit) (event : GatewayOutboxEventInput) :
    Program OutboxEvent := do
  request .connect
  request .startTransaction
  Async.tryFinally
    (Async.tryCatch
      (do
        work
        let row ← saveOutboxEvent event
        request .commitTransaction
        pure row)
      (fun error => (request .rollbackTransaction).bind (fun _ => .reject error)))
    (request .release)

def record (event : GatewayOutboxEventInput) : Program OutboxEvent :=
  runWithOutboxEvent (pure ()) event

end GatewayOutboxTransactionService

structure ProducerRoute where
  version : SchemaVersion
  build : (correlationId : Option String) → (randomUUID : String) → (now : Int) → Parsed Json
  /-- The member that only the response of the second route has. -/
  schemaVersion : Option String

structure AcceptedResponse where
  status : String := "accepted"
  message : String :=
    "Event durably persisted to the gateway outbox and will be delivered to RabbitMQ asynchronously"
  correlationId : Option String
  eventId : String
  eventType : String
  schemaVersion : Option String
  outboxId : Nat

namespace ProducerRoute

def eventType (route : ProducerRoute) : String := route.version.eventTypeName

/-- `eventId` is the one of the event that was built. -/
def refuse (route : ProducerRoute) (correlationId : Option String) (eventId : String)
    (errors : List ValidationFailureDetail) : Program AcceptedResponse := do
  request (.count (.messagesFailed route.eventType .validation))
  request (.lifecycle ⟨.rejected,route.eventType,eventId,correlationId,some errors⟩)
  .reject (.badRequest { eventType := route.eventType, eventId := eventId, errors := errors })

/-- What the route passes to the outbox for the event that validation returned. -/
def descriptor (route : ProducerRoute) (correlationId : Option String) (event : ContractEvent) :
    GatewayOutboxEventInput where
  eventType := route.eventType
  payload := event.toJson
  correlationId := correlationId
  eventId := some event.eventId
  maxAttempts := none

def persist (route : ProducerRoute) (correlationId : Option String) (event : ContractEvent) :
    Program AcceptedResponse := do
  let outboxRow ← GatewayOutboxTransactionService.record (route.descriptor correlationId event)
  request (.count (.messagesProcessed route.eventType "accepted"))
  request (.lifecycle ⟨.emitted,route.eventType,event.eventId,correlationId,none⟩)
  pure {
    correlationId := correlationId
    eventId := event.eventId
    eventType := route.eventType
    schemaVersion := route.schemaVersion
    outboxId := outboxRow.id }

def recordValid (route : ProducerRoute) (correlationId : Option String) (event : ContractEvent) :
    Program AcceptedResponse :=
  Async.tryCatch (route.persist correlationId event)
    (fun error => (request (.count (.messagesFailed route.eventType .transient))).bind
      (fun _ => .reject error))

def handle (zod : Library) (route : ProducerRoute) (correlationId : Option String) :
    Program AcceptedResponse := do
  let randomUUID ← request .randomUUID
  let now ← request .newDate
  match route.build correlationId randomUUID now with
  | .invalid issues _ => .reject (.thrown ⟨.error,"ZodError",zod.errorText issues,none,none⟩)
  | .valid event =>
      match validateEvent zod (some event) route.version with
      | .error errors => route.refuse correlationId randomUUID errors
      | .ok valid => route.recordValid correlationId valid

end ProducerRoute

namespace AppController

def testMessage : ProducerRoute where
  version := .v1
  build correlationId randomUUID now := .valid (buildCreateMessageEventV1
    (.obj [("subject",.str "System test message"),("content",.str "Hello RabbitMQ!")])
    correlationId randomUUID now)
  schemaVersion := none

def testMessageV2 : ProducerRoute where
  version := .v2
  build := buildCreateMessageEventV2
    (.obj [("subject",.str "System test message (v2)"),("content",.str "Hello RabbitMQ!")])
  schemaVersion := some SchemaVersion.v2.name

def sendTestMessage (zod : Library) (correlationId : Option String) : Program AcceptedResponse :=
  testMessage.handle zod correlationId

def sendTestMessageV2 (zod : Library) (correlationId : Option String) : Program AcceptedResponse :=
  testMessageV2.handle zod correlationId

end AppController

def gatewayRow (new : Consumer.NewOutboxEvent) (id : Nat) : OutboxEvent :=
  (Recorded.mk id new.eventType new.payload new.correlationId new.maxAttempts (some new.eventId)
    new.traceContext).row new.nextRetryAt

/-- The database as one request sees it. An open transaction works on a table of its own. -/
structure Session where
  table : OutboxTable
  transaction : Option OutboxTable := none
  committed : Bool := false
  /-- A step failed before the commit. -/
  faulted : Bool := false

/-- How the environment answers one step. A step that fails may have had its effect on the
transaction before it failed. -/
structure Turn where
  error : Option Thrown := none
  lost : Bool := false
  randomUUID : String := ""
  now : Int := 0
  carrier : TraceCarrier := []
  id : Nat := 0

def uniqueViolation : Thrown := ⟨.error,"QueryFailedError","duplicate key value",some "23505",some "23505"⟩

def transactionNotStarted : Thrown := ⟨.error,"TransactionNotStartedError","",none,none⟩

namespace Session

def fault (session : Session) : Session :=
  { session with faulted := session.faulted || !session.committed }

/-- Outside of a transaction an insert takes effect at once. -/
def insert (session : Session) (row : OutboxEvent) : Option Session :=
  match session.transaction with
  | some working =>
      if fresh : row.id ∉ working.keys then
        some { session with transaction := some (working.insert row fresh) }
      else none
  | none =>
      if fresh : row.id ∉ session.table.keys then
        some { session with table := session.table.insert row fresh }
      else none

def effect (session : Session) (turn : Turn) : Request → Session
  | .startTransaction => { session with transaction := some session.table }
  | .saveOutboxEvent new => (session.insert (gatewayRow new turn.id)).getD session
  | .rollbackTransaction => { session with transaction := none }
  | _ => session

def serve (session : Session) (turn : Turn) : (request : Request) →
    Except RequestFailure (Reply request) × Session
  | .randomUUID => (.ok turn.randomUUID,session)
  | .newDate => (.ok turn.now,session)
  | .inject => (.ok turn.carrier,session)
  | .saveOutboxEvent new =>
      match session.insert (gatewayRow new turn.id) with
      | some after => (.ok (gatewayRow new turn.id),after)
      | none => (.error (.thrown uniqueViolation),session.fault)
  | .commitTransaction =>
      match session.transaction with
      | some working => (.ok (),{ session with table := working, transaction := none, committed := true })
      | none => (.error (.thrown transactionNotStarted),session.fault)
  | .startTransaction => (.ok (),session.effect turn .startTransaction)
  | .rollbackTransaction => (.ok (),session.effect turn .rollbackTransaction)
  | .connect | .release | .lifecycle _ | .count _ => (.ok (),session)

def answer (session : Session) (turn : Turn) (request : Request) :
    Except RequestFailure (Reply request) × Session :=
  match turn.error with
  | some error => (.error (.thrown error),if turn.lost then (session.effect turn request).fault else session.fault)
  | none => session.serve turn request

end Session

def answerIn (turns : Nat → Turn) (state : Nat × Session) (request : Request) :
    Except RequestFailure (Reply request) × Nat × Session :=
  let answered := state.2.answer (turns state.1) request
  (answered.1,state.1 + 1,answered.2)

/-- A program against a table, with the answers of the environment in their order. -/
def respond {Value : Type} (program : Program Value) (turns : Nat → Turn) (table : OutboxTable) :
    Except RequestFailure Value × Session :=
  let ended := program.evaluate (answerIn turns) (0,{ table := table })
  (ended.1,ended.2.2)

def sessionProtocol : Protocol Session RequestFailure Request Reply where
  allows _ _ := True
  moves before request answer after := ∃ turn, before.answer turn request = (answer,after)

/-- What a program does step by step, it does as a whole for every list of answers. -/
theorem respond_follows {Value : Type} {program : Program Value} {table : OutboxTable}
    {post : Session → Except RequestFailure Value → Prop}
    (follows : sessionProtocol.Follows program { table := table } post) (turns : Nat → Turn) :
    post (respond program turns table).2 (respond program turns table).1 := by
  have moved : ∀ (state : Nat × Session) request, sessionProtocol.moves state.2 request
      (answerIn turns state request).1 (answerIn turns state request).2.2 :=
    fun state _ => ⟨turns state.1,rfl⟩
  exact @Protocol.Follows.evaluate _ _ _ _ _ sessionProtocol _ (answerIn turns) Prod.snd program post
    moved (0,{ table := table }) follows

def Request.quiet : Request → Bool
  | .startTransaction | .saveOutboxEvent _ | .commitTransaction | .rollbackTransaction => false
  | _ => true

structure Untouched (table : OutboxTable) (session : Session) : Prop where
  same : session.table = table
  uncommitted : session.committed = false

def Committed (table : OutboxTable) (row : OutboxEvent) (session : Session) : Prop :=
  ∃ fresh, session = { table := table.insert row fresh, committed := true }

variable {table : OutboxTable} {session after : Session} {turn : Turn}

theorem Untouched.fault (untouched : Untouched table session) : Untouched table session.fault :=
  ⟨untouched.same,untouched.uncommitted⟩

theorem Committed.fault {row : OutboxEvent} (committed : Committed table row session) :
    Committed table row session.fault := by
  obtain ⟨fresh,rfl⟩ := committed
  exact ⟨fresh,rfl⟩

theorem insert_working {working : OutboxTable} (opened : session.transaction = some working)
    {row : OutboxEvent} (inserted : session.insert row = some after) :
    ∃ fresh, after = { session with transaction := some (working.insert row fresh) } := by
  simp only [Session.insert,opened] at inserted
  by_cases fresh : row.id ∉ working.keys
  · rw [dif_pos fresh] at inserted
    exact ⟨fresh,(Option.some.inj inserted).symm⟩
  · rw [dif_neg fresh] at inserted
    cases inserted

/-- Only a commit and an insert outside of a transaction change the table. -/
theorem effect_untouched {request : Request} (untouched : Untouched table session)
    (opened : ∀ new, request = .saveOutboxEvent new → session.transaction.isSome) :
    Untouched table (session.effect turn request) := by
  cases request with
  | saveOutboxEvent new =>
    obtain ⟨working,working_eq⟩ := Option.isSome_iff_exists.mp (opened new rfl)
    cases inserted : session.insert (gatewayRow new turn.id) with
    | none => simpa [Session.effect,inserted] using untouched
    | some after =>
      obtain ⟨_,rfl⟩ := insert_working working_eq inserted
      simp only [Session.effect,inserted,Option.getD_some]
      exact ⟨untouched.same,untouched.uncommitted⟩
  | startTransaction => exact ⟨untouched.same,untouched.uncommitted⟩
  | rollbackTransaction => exact ⟨untouched.same,untouched.uncommitted⟩
  | randomUUID => exact untouched
  | newDate => exact untouched
  | inject => exact untouched
  | lifecycle record => exact untouched
  | count metric => exact untouched
  | connect => exact untouched
  | commitTransaction => exact untouched
  | release => exact untouched

theorem answer_error {error : Thrown} (failed : turn.error = some error) (request : Request) :
    session.answer turn request = (.error (.thrown error),
      if turn.lost then (session.effect turn request).fault else session.fault) := by
  simp only [Session.answer,failed]

theorem answer_served (served : turn.error = none) (request : Request) :
    session.answer turn request = session.serve turn request := by
  simp only [Session.answer,served]

theorem failed_untouched {request : Request} {error : Thrown} (failed : turn.error = some error)
    (untouched : Untouched table session)
    (opened : ∀ new, request = .saveOutboxEvent new → session.transaction.isSome) :
    Untouched table (session.answer turn request).2 := by
  rw [answer_error failed]
  by_cases lost : turn.lost = true
  · rw [if_pos lost]
    exact (effect_untouched untouched opened).fault
  · rw [if_neg lost]
    exact untouched.fault

/-- A request that fails leaves the table untouched, so only its success has to be looked at. -/
theorem follows_served {request : Request} {post : Session → Except RequestFailure (Reply request) → Prop}
    (untouched : Untouched table session)
    (opened : ∀ new, request = .saveOutboxEvent new → session.transaction.isSome)
    (served : ∀ turn answer after, session.serve turn request = (answer,after) → post after answer)
    (failed : ∀ after error, Untouched table after → post after (.error (.thrown error))) :
    sessionProtocol.Follows (Gateway.request request) session post := by
  apply Protocol.Follows.call trivial
  intro answer after moved
  obtain ⟨turn,answered⟩ := moved
  cases outcome : turn.error with
  | some error =>
    have kept := failed_untouched outcome untouched opened
    rw [answered] at kept
    rw [answer_error outcome,Prod.mk.injEq] at answered
    obtain ⟨rfl,_⟩ := answered
    exact failed after error kept
  | none =>
    rw [answer_served outcome] at answered
    exact served turn answer after answered

section follows
variable {post : Session → Except RequestFailure Unit → Prop}

theorem follows_quiet {request : Request} (quiet : request.quiet = true)
    {post : Session → Except RequestFailure (Reply request) → Prop}
    (served : ∀ reply, post session (.ok reply))
    (failed : ∀ error, post session.fault (.error (.thrown error))) :
    sessionProtocol.Follows (Gateway.request request) session post := by
  apply Protocol.Follows.call trivial
  intro answer after moved
  obtain ⟨turn,answered⟩ := moved
  cases outcome : turn.error with
  | some error =>
    rw [answer_error outcome] at answered
    have unchanged : session.effect turn request = session := by
      cases request <;> first | rfl | cases quiet
    rw [unchanged,ite_self,Prod.mk.injEq] at answered
    obtain ⟨rfl,rfl⟩ := answered
    exact failed error
  | none =>
    rw [answer_served outcome] at answered
    have unchanged : ∃ reply, session.serve turn request = (.ok reply,session) := by
      cases request <;> first | exact ⟨_,rfl⟩ | cases quiet
    obtain ⟨reply,unchanged⟩ := unchanged
    rw [unchanged,Prod.mk.injEq] at answered
    obtain ⟨rfl,rfl⟩ := answered
    exact served reply

theorem follows_startTransaction (untouched : Untouched table session)
    (served : post { session with transaction := some session.table } (.ok ()))
    (failed : ∀ after error, Untouched table after → post after (.error (.thrown error))) :
    sessionProtocol.Follows (request .startTransaction) session post := by
  refine follows_served untouched (fun _ same => by cases same) ?_ failed
  intro turn answer after answered
  obtain ⟨rfl,rfl⟩ := Prod.mk.inj answered
  exact served

theorem follows_rollbackTransaction (untouched : Untouched table session)
    (ended : ∀ after answer, Untouched table after → (∀ error, answer = .error error → ∃ thrown, error = .thrown thrown) →
      post after answer) :
    sessionProtocol.Follows (request .rollbackTransaction) session post := by
  refine follows_served untouched (fun _ same => by cases same) ?_ ?_
  · intro turn answer after answered
    obtain ⟨rfl,rfl⟩ := Prod.mk.inj answered
    exact ended _ _ ⟨untouched.same,untouched.uncommitted⟩ (fun _ same => by cases same)
  · intro after error kept
    exact ended after _ kept (fun _ same => ⟨error,(Except.error.inj same).symm⟩)

theorem follows_commitTransaction {working : OutboxTable} (untouched : Untouched table session)
    (opened : session.transaction = some working)
    (served : post { session with table := working, transaction := none, committed := true } (.ok ()))
    (failed : ∀ after error, Untouched table after → post after (.error (.thrown error))) :
    sessionProtocol.Follows (request .commitTransaction) session post := by
  refine follows_served untouched (fun _ same => by cases same) ?_ failed
  intro turn answer after answered
  simp only [Session.serve,opened,Prod.mk.injEq] at answered
  obtain ⟨rfl,rfl⟩ := answered
  exact served

end follows

theorem follows_saveOutboxEvent {new : Consumer.NewOutboxEvent} {working : OutboxTable}
    {post : Session → Except RequestFailure OutboxEvent → Prop} (untouched : Untouched table session)
    (opened : session.transaction = some working)
    (served : ∀ id fresh, post { session with transaction := some (working.insert (gatewayRow new id) fresh) }
      (.ok (gatewayRow new id)))
    (failed : ∀ after error, Untouched table after → post after (.error (.thrown error))) :
    sessionProtocol.Follows (request (.saveOutboxEvent new)) session post := by
  refine follows_served untouched (fun _ _ => by rw [opened]; rfl) ?_ failed
  intro turn answer after answered
  cases inserted : session.insert (gatewayRow new turn.id) with
  | none =>
    simp only [Session.serve,inserted,Prod.mk.injEq] at answered
    obtain ⟨rfl,rfl⟩ := answered
    exact failed _ _ untouched.fault
  | some written =>
    simp only [Session.serve,inserted,Prod.mk.injEq] at answered
    obtain ⟨rfl,rfl⟩ := answered
    obtain ⟨fresh,rfl⟩ := insert_working opened inserted
    exact served turn.id fresh

def RowOf (event : GatewayOutboxEventInput) (row : OutboxEvent) : Prop :=
  ∃ randomUUID traceContext now, row =
    (GatewayOutboxTransactionService.insertOutboxEvent event row.id randomUUID traceContext).row now

/-- The transaction failed before its commit, or only its cleanup did. -/
def Failed (table : OutboxTable) (event : GatewayOutboxEventInput) (session : Session)
    (error : RequestFailure) : Prop :=
  (∃ thrown, error = .thrown thrown) ∧
    (Untouched table session ∨ ∃ row, RowOf event row ∧ Committed table row session)

def Staged (table working : OutboxTable) (event : GatewayOutboxEventInput) (after : Session) :
    Except RequestFailure OutboxEvent → Prop
  | .ok row => RowOf event row ∧ ∃ fresh,
      after = { table := table, transaction := some (working.insert row fresh) }
  | .error error => (∃ thrown, error = .thrown thrown) ∧ Untouched table after

def Attempted (table : OutboxTable) (event : GatewayOutboxEventInput) (after : Session) :
    Except RequestFailure OutboxEvent → Prop
  | .ok row => RowOf event row ∧ Committed table row after
  | .error error => (∃ thrown, error = .thrown thrown) ∧ Untouched table after

/-- As above, but a release that fails after the commit hides the row. -/
def Released (table : OutboxTable) (event : GatewayOutboxEventInput) (after : Session) :
    Except RequestFailure OutboxEvent → Prop
  | .ok row => RowOf event row ∧ Committed table row after
  | .error error => Failed table event after error

theorem quiet_then {request : Request} {Value : Type} {next : Reply request → Program Value}
    {post : Session → Except RequestFailure Value → Prop} (quiet : request.quiet = true)
    (continued : ∀ reply, sessionProtocol.Follows (next reply) session post)
    (failed : ∀ error, post session.fault (.error (.thrown error))) :
    sessionProtocol.Follows ((Gateway.request request).bind next) session post := by
  have first : sessionProtocol.Follows (Gateway.request request) session (fun after outcome =>
      match outcome with
      | .ok _ => after = session
      | .error error => ∃ thrown, error = .thrown thrown ∧ after = session.fault) :=
    follows_quiet quiet (fun _ => rfl) (fun error => ⟨error,rfl,rfl⟩)
  apply first.bind
  · intro after reply same
    obtain rfl : after = session := same
    exact continued reply
  · intro after error lost
    obtain ⟨thrown,rfl,rfl⟩ := lost
    exact failed thrown

/-- An insert that resolves has staged the row in the open transaction. -/
theorem saveOutboxEvent_follows {working : OutboxTable} (event : GatewayOutboxEventInput) :
    sessionProtocol.Follows (GatewayOutboxTransactionService.saveOutboxEvent event)
      { table := table, transaction := some working } (Staged table working event) := by
  have untouched : Untouched table { table := table, transaction := some working } := ⟨rfl,rfl⟩
  have lost : ∀ error : Thrown, Staged table working event
      (Session.fault { table := table, transaction := some working }) (.error (.thrown error)) :=
    fun error => ⟨⟨error,rfl⟩,untouched.fault⟩
  have saved : ∀ eventId now traceContext, sessionProtocol.Follows
      (request (.saveOutboxEvent
        (GatewayOutboxTransactionService.newOutboxEvent event eventId now traceContext)))
      { table := table, transaction := some working } (Staged table working event) := by
    intro eventId now traceContext
    apply follows_saveOutboxEvent untouched rfl
    · intro id fresh
      exact ⟨⟨eventId,traceContext,now,rfl⟩,fresh,rfl⟩
    · intro after error kept
      exact ⟨⟨error,rfl⟩,kept⟩
  unfold GatewayOutboxTransactionService.saveOutboxEvent
  apply quiet_then rfl _ lost
  intro now
  apply quiet_then rfl _ lost
  intro traceContext
  cases event.eventId with
  | some eventId => exact saved eventId now traceContext
  | none =>
    apply quiet_then rfl _ lost
    intro randomUUID
    exact saved randomUUID now traceContext

theorem runInTransaction_follows (event : GatewayOutboxEventInput) :
    sessionProtocol.Follows
      ((GatewayOutboxTransactionService.saveOutboxEvent event).bind (fun row =>
        (request .commitTransaction).bind (fun _ => .resolve row)))
      { table := table, transaction := some table } (Attempted table event) := by
  apply (saveOutboxEvent_follows event).bind
  · intro after row staged
    obtain ⟨recorded,fresh,rfl⟩ := staged
    have working : Untouched table { table := table, transaction := some (table.insert row fresh) } :=
      ⟨rfl,rfl⟩
    have committed : sessionProtocol.Follows (request .commitTransaction)
        { table := table, transaction := some (table.insert row fresh) }
        (fun after outcome => Attempted table event after (outcome.map (fun _ => row))) :=
      follows_commitTransaction working rfl ⟨recorded,fresh,rfl⟩
        (fun after error kept => ⟨⟨error,rfl⟩,kept⟩)
    exact committed.bind (fun _ _ done => done) (fun _ _ lost => lost)
  · intro after error lost
    exact lost

theorem rollback_follows {event : GatewayOutboxEventInput} {error : RequestFailure}
    (failed : Attempted table event session (.error error)) :
    sessionProtocol.Follows ((request .rollbackTransaction).bind (fun _ => .reject error)) session
      (Attempted table event) := by
  have rolled : sessionProtocol.Follows (request .rollbackTransaction) session (fun after answer =>
      Untouched table after ∧ ∀ error, answer = .error error → ∃ thrown, error = .thrown thrown) :=
    follows_rollbackTransaction failed.2 (fun _ _ kept thrown => ⟨kept,thrown⟩)
  exact rolled.bind (fun _ _ kept => ⟨failed.1,kept.1⟩) (fun _ _ kept => ⟨kept.2 _ rfl,kept.1⟩)

theorem release_follows {event : GatewayOutboxEventInput} {outcome : Except RequestFailure OutboxEvent}
    (ended : Attempted table event session outcome) :
    sessionProtocol.Follows (request .release) session (fun after released => match released with
      | .ok _ => Released table event after outcome
      | .error error => Released table event after (.error error)) := by
  cases outcome with
  | ok row =>
    exact follows_quiet rfl (fun _ => ended)
      (fun error => ⟨⟨error,rfl⟩,.inr ⟨row,ended.1,ended.2.fault⟩⟩)
  | error error =>
    exact follows_quiet rfl (fun _ => ⟨ended.1,.inl ended.2⟩)
      (fun thrown => ⟨⟨thrown,rfl⟩,.inl ended.2.fault⟩)

/-- The envelope commits the row or leaves the table alone; only a release that fails after the commit hides
what it did. -/
theorem record_follows (event : GatewayOutboxEventInput) (table : OutboxTable) :
    sessionProtocol.Follows (GatewayOutboxTransactionService.record event) { table := table }
      (Released table event) := by
  have untouched : Untouched table { table := table } := ⟨rfl,rfl⟩
  have guarded : sessionProtocol.Follows _ { table := table, transaction := some table }
      (Attempted table event) :=
    (runInTransaction_follows event).tryCatch (fun _ _ done => done)
      (fun _ _ failed => rollback_follows failed)
  have started : sessionProtocol.Follows (request .startTransaction) { table := table }
      (fun after outcome => match outcome with
        | .ok _ => after = { table := table, transaction := some table }
        | .error error => (∃ thrown, error = .thrown thrown) ∧ Untouched table after) :=
    follows_startTransaction untouched rfl (fun after error kept => ⟨⟨error,rfl⟩,kept⟩)
  apply quiet_then rfl _ (fun error => ⟨⟨error,rfl⟩,.inl untouched.fault⟩)
  intro _
  apply started.bind
  · intro after _ same
    obtain rfl : after = _ := same
    apply guarded.tryFinally
    intro after outcome ended
    exact (release_follows ended).mono (fun _ released kept => by cases released <;> exact kept)
  · intro after error lost
    exact ⟨lost.1,.inl lost.2⟩

def ProducerRoute.Validated (zod : Library) (route : ProducerRoute) (correlationId : Option String)
    (event : ContractEvent) : Prop :=
  ∃ randomUUID now built, route.build correlationId randomUUID now = .valid built ∧
    validateEvent zod (some built) route.version = .ok event

def ProducerRoute.Ends (zod : Library) (route : ProducerRoute) (correlationId : Option String)
    (table : OutboxTable) (after : Session) : Except RequestFailure AcceptedResponse → Prop
  | .ok response => ∃ event row, route.Validated zod correlationId event ∧
      RowOf (route.descriptor correlationId event) row ∧ Committed table row after ∧
      response.eventId = event.eventId ∧ response.outboxId = row.id
  | .error (.badRequest _) => Untouched table after
  | .error (.thrown _) => Untouched table after ∨ ∃ event row, route.Validated zod correlationId event ∧
      RowOf (route.descriptor correlationId event) row ∧ Committed table row after

/-- A refusal is answered with the status 400 and leaves the table alone. -/
theorem refuse_follows (zod : Library) (route : ProducerRoute) (correlationId : Option String)
    (eventId : String) (errors : List ValidationFailureDetail) (table : OutboxTable) :
    sessionProtocol.Follows (route.refuse correlationId eventId errors) { table := table }
      (route.Ends zod correlationId table) := by
  have untouched : Untouched table { table := table } := ⟨rfl,rfl⟩
  apply quiet_then rfl _ (fun _ => .inl untouched.fault)
  intro _
  apply quiet_then rfl _ (fun _ => .inl untouched.fault)
  intro _
  exact untouched

def ProducerRoute.Persists (zod : Library) (route : ProducerRoute) (correlationId : Option String)
    (event : ContractEvent) (table : OutboxTable) (after : Session) :
    Except RequestFailure AcceptedResponse → Prop
  | .ok response => route.Ends zod correlationId table after (.ok response)
  | .error error => Failed table (route.descriptor correlationId event) after error

theorem persist_follows {zod : Library} {route : ProducerRoute} {correlationId : Option String}
    {event : ContractEvent} (validated : route.Validated zod correlationId event) (table : OutboxTable) :
    sessionProtocol.Follows (route.persist correlationId event) { table := table }
      (route.Persists zod correlationId event table) := by
  apply (record_follows (route.descriptor correlationId event) table).bind
  · intro after row released
    obtain ⟨rowOf,committed⟩ := released
    have lost : ∀ error : Thrown, Failed table (route.descriptor correlationId event) after.fault
        (.thrown error) := fun error => ⟨⟨error,rfl⟩,.inr ⟨row,rowOf,committed.fault⟩⟩
    apply quiet_then rfl _ lost
    intro _
    apply quiet_then rfl _ lost
    intro _
    exact ⟨event,row,validated,rowOf,committed,rfl,rfl⟩
  · intro after error failed
    exact failed

theorem Failed.rethrown {zod : Library} {route : ProducerRoute} {correlationId : Option String}
    {event : ContractEvent} {error : RequestFailure} (validated : route.Validated zod correlationId event)
    (failed : Failed table (route.descriptor correlationId event) session error) :
    route.Ends zod correlationId table session (.error error) := by
  obtain ⟨⟨thrown,rfl⟩,either⟩ := failed
  rcases either with untouched | ⟨row,rowOf,committed⟩
  · exact .inl untouched
  · exact .inr ⟨event,row,validated,rowOf,committed⟩

theorem Failed.fault {event : GatewayOutboxEventInput} {error : RequestFailure}
    (failed : Failed table event session error) (thrown : Thrown) :
    Failed table event session.fault (.thrown thrown) := by
  refine ⟨⟨thrown,rfl⟩,?_⟩
  rcases failed.2 with untouched | ⟨row,rowOf,committed⟩
  · exact .inl untouched.fault
  · exact .inr ⟨row,rowOf,committed.fault⟩

theorem recordValid_follows {zod : Library} {route : ProducerRoute} {correlationId : Option String}
    {event : ContractEvent} (validated : route.Validated zod correlationId event) (table : OutboxTable) :
    sessionProtocol.Follows (route.recordValid correlationId event) { table := table }
      (route.Ends zod correlationId table) := by
  have resolved : ∀ after response, route.Persists zod correlationId event table after (.ok response) →
      route.Ends zod correlationId table after (.ok response) := fun _ _ done => done
  apply (persist_follows validated table).tryCatch resolved
  intro after error failed
  apply quiet_then rfl
  · intro _
    exact Failed.rethrown validated failed
  · intro thrown
    exact Failed.rethrown validated (Failed.fault failed thrown)

/-- A request ends with the answer to its commit, with a refusal, or with an error that is not an answer of
its own. -/
theorem handle_follows (zod : Library) (route : ProducerRoute) (correlationId : Option String)
    (table : OutboxTable) :
    sessionProtocol.Follows (route.handle zod correlationId) { table := table }
      (route.Ends zod correlationId table) := by
  have untouched : Untouched table { table := table } := ⟨rfl,rfl⟩
  apply quiet_then rfl _ (fun _ => .inl untouched.fault)
  intro randomUUID
  apply quiet_then rfl _ (fun _ => .inl untouched.fault)
  intro now
  cases built : route.build correlationId randomUUID now with
  | invalid issues kept => exact .inl untouched
  | valid event =>
    cases validated : validateEvent zod (some event) route.version with
    | error errors =>
      simp only [validated]
      exact refuse_follows zod route correlationId randomUUID errors table
    | ok valid =>
      simp only [validated]
      exact recordValid_follows ⟨randomUUID,now,event,built,validated⟩ table

/-- What a request leaves behind. A response stands for a committed row, a refusal for an
untouched table, and so does the failure of a step up to the commit. -/
structure ProducerRoute.Durable (zod : Library) (route : ProducerRoute) (correlationId : Option String)
    (table : OutboxTable) (outcome : Except RequestFailure AcceptedResponse) (after : Session) : Prop where
  accepted : ∀ response, outcome = .ok response → ∃ event row fresh,
    after.table = table.insert row fresh ∧ route.Validated zod correlationId event ∧
    response.outboxId = row.id ∧ response.eventId = event.eventId ∧ row.status = .pending ∧
    row.eventId = some event.eventId ∧ row.eventType = route.eventType ∧ row.payload = event.toJson
  refused : ∀ violation, outcome = .error (.badRequest violation) → after.table = table
  faulted : after.faulted = true → (∃ error, outcome = .error error) ∧ after.table = table
  recorded : ∀ row ∈ after.table, row ∈ table ∨
    ∃ event, route.Validated zod correlationId event ∧ row.payload = event.toJson

theorem ProducerRoute.Ends.durable {zod : Library} {route : ProducerRoute} {correlationId : Option String}
    {outcome : Except RequestFailure AcceptedResponse}
    (ends : route.Ends zod correlationId table after outcome) :
    route.Durable zod correlationId table outcome after := by
  have kept : Untouched table after → ∀ row ∈ after.table, row ∈ table ∨
      ∃ event, route.Validated zod correlationId event ∧ row.payload = event.toJson :=
    fun untouched row member => .inl (untouched.same ▸ member)
  have inserted : ∀ event row, route.Validated zod correlationId event →
      RowOf (route.descriptor correlationId event) row → Committed table row after →
      ∀ other ∈ after.table, other ∈ table ∨
        ∃ event, route.Validated zod correlationId event ∧ other.payload = event.toJson := by
    intro event row validated rowOf committed other member
    obtain ⟨fresh,rfl⟩ := committed
    obtain ⟨randomUUID,traceContext,now,columns⟩ := rowOf
    rcases (Table.mem_insert fresh).mp member with old | rfl
    · exact .inl old
    · exact .inr ⟨event,validated,by rw [columns]; rfl⟩
  cases outcome with
  | ok response =>
    obtain ⟨event,row,validated,rowOf,committed,eventId,outboxId⟩ := ends
    refine ⟨?_,?_,?_,inserted event row validated rowOf committed⟩
    · intro _ same
      obtain rfl := Except.ok.inj same
      obtain ⟨fresh,rfl⟩ := committed
      obtain ⟨randomUUID,traceContext,now,columns⟩ := rowOf
      refine ⟨event,row,fresh,rfl,validated,outboxId,eventId,?_,?_,?_,?_⟩ <;> rw [columns] <;> rfl
    · intro _ same
      cases same
    · intro faulted
      obtain ⟨fresh,rfl⟩ := committed
      cases faulted
  | error error =>
    cases error with
    | badRequest violation =>
      have untouched : Untouched table after := ends
      refine ⟨?_,fun _ _ => untouched.same,fun _ => ⟨⟨_,rfl⟩,untouched.same⟩,kept untouched⟩
      intro _ same
      cases same
    | thrown thrown =>
      refine ⟨?_,?_,?_,?_⟩
      · intro _ same
        cases same
      · intro _ same
        cases same
      · intro faulted
        rcases ends with untouched | ⟨event,row,_,_,fresh,rfl⟩
        · exact ⟨⟨_,rfl⟩,untouched.same⟩
        · cases faulted
      · rcases ends with untouched | ⟨event,row,validated,rowOf,committed⟩
        · exact kept untouched
        · exact inserted event row validated rowOf committed

/-- Both producer routes accept durably, whatever the header holds and whichever steps fail. -/
theorem accept_durable (zod : Library) (correlationId : Option String) (turns : Nat → Turn)
    (table : OutboxTable) :
    AppController.testMessage.Durable zod correlationId table
        (respond (AppController.sendTestMessage zod correlationId) turns table).1
        (respond (AppController.sendTestMessage zod correlationId) turns table).2 ∧
      AppController.testMessageV2.Durable zod correlationId table
        (respond (AppController.sendTestMessageV2 zod correlationId) turns table).1
        (respond (AppController.sendTestMessageV2 zod correlationId) turns table).2 := by
  have durable : ∀ route : ProducerRoute, route.Durable zod correlationId table
      (respond (route.handle zod correlationId) turns table).1
      (respond (route.handle zod correlationId) turns table).2 :=
    fun route => (respond_follows (handle_follows zod route correlationId table) turns).durable
  exact ⟨durable AppController.testMessage,durable AppController.testMessageV2⟩

example : ((respond (AppController.sendTestMessage sampleLibrary (some "c-1")) (fun _ => { id := 7 })
    Table.empty).1.toOption.map AcceptedResponse.outboxId) = some 7 := by decide

example : (respond (AppController.sendTestMessageV2 sampleLibrary none) (fun _ => { id := 7 })
    Table.empty).2.table.keys = [] := by decide

end MessagingPlatform.Gateway
