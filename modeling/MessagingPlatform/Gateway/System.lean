import MessagingPlatform.Gateway.Accept
import MessagingPlatform.Lib.Pool
import MessagingPlatform.Lib.IndexedStore
import MessagingPlatform.Lib.Translate

/-! Any number of producer requests at once over the gateway's database. A request is a program of its own that ends
with the answer to its client; it can crash between any two calls, and the database rolls back a transaction whose
connection is gone. -/
namespace MessagingPlatform.Gateway
open Outbox Schema

inductive Demand where
  | step (request : Request)
  | respond (outcome : Except RequestFailure AcceptedResponse)

abbrev Demand.Reply : Demand → Type
  | .step request => Gateway.Reply request
  | .respond _ => Unit

structure Post where
  route : ProducerRoute
  correlationId : Option String

/-- The framework sends what the handler resolves to, or the response of its exception. -/
def Post.program (zod : Library) (post : Post) : Async RequestFailure Demand Demand.Reply Unit :=
  ((post.route.handle zod post.correlationId).translate .step (fun _ reply => reply)).settle.bind
    (fun outcome => Async.call (Demand.respond outcome))

structure Stored where
  id : Nat
  new : Consumer.NewOutboxEvent

/-- The partial unique index on `event_id`. -/
def Stored.eventId (stored : Stored) : Option String := some stored.new.eventId

structure Database where
  store : IndexedStore Stored
  nextId : Nat
  responses : List (Nat × Except RequestFailure AcceptedResponse)
  /-- What each program was started for. -/
  posts : Nat → Option Post

structure Supply where
  randomUUID : String := ""
  now : Int := 0
  carrier : TraceCarrier := []

inductive Incident where
  | abort (pid : Nat)

namespace Database

def initial : Database := ⟨.empty,1,[],fun _ => none⟩

/-- A sequence does not give back the ids of rows that are not stored. -/
def saveOutboxEvent (database : Database) (pid : Nat) (new : Consumer.NewOutboxEvent) :
    Option (Except RequestFailure OutboxEvent × Database) :=
  (database.store.insert Stored.eventId pid ⟨database.nextId,new⟩).map (fun inserted =>
    match inserted with
    | .taken => (.error (.thrown uniqueViolation),{ database with nextId := database.nextId + 1 })
    | .stored store => (.ok (gatewayRow new database.nextId),{ database with store, nextId := database.nextId + 1 }))

def serve (database : Database) (pid : Nat) : (demand : Demand) → Supply →
    Option (Except RequestFailure demand.Reply × Database)
  | .step .randomUUID, supply => some (.ok supply.randomUUID,database)
  | .step .newDate, supply => some (.ok supply.now,database)
  | .step .inject, supply => some (.ok supply.carrier,database)
  | .step (.saveOutboxEvent new), _ => database.saveOutboxEvent pid new
  | .step .startTransaction, _ => (database.store.begin pid).map (fun store => (.ok (),{ database with store }))
  | .step .commitTransaction, _ => (database.store.commit pid).map (fun store => (.ok (),{ database with store }))
  | .step .rollbackTransaction, _ => some (.ok (),{ database with store := database.store.rollback pid })
  | .step (.lifecycle _), _ | .step (.count _), _ | .step .connect, _ | .step .release, _ => some (.ok (),database)
  | .respond outcome, _ => some (.ok (),{ database with responses := database.responses ++ [(pid,outcome)] })

end Database

/-- Any step may fail; the exceptions of the handler itself are no answers of the environment. -/
def Demand.fails : Demand → RequestFailure → Bool
  | .step _, .thrown _ => true
  | _, _ => false

abbrev GatewayWorld := World Database RequestFailure Demand Demand.Reply Supply Incident Post

def gatewayWorld (zod : Library) : GatewayWorld where
  serve := Database.serve
  fails := Demand.fails
  crash database _ := database
  external database
    | .abort pid => some { database with store := database.store.rollback pid }
  start database pid post :=
    some (post.program zod,{ database with posts := Function.update database.posts pid (some post) })

abbrev GatewayPool := Pool Database RequestFailure Demand Demand.Reply

abbrev GatewayAction := World.Action Supply RequestFailure Incident Post

def anything (_ : Database) (_ : Happening Demand Supply RequestFailure Incident Post) : Prop := True

instance (database : Database) (event : Happening Demand Supply RequestFailure Incident Post) :
    Decidable (anything database event) := .isTrue trivial

/-! What every request respects: it saves one row, made from an event that validation accepted, and it is answered
with 202 only when that row is committed, with 400 only when it has not touched the database. -/

/-- How far the transaction of a request has come. After a failure nothing is known of it. -/
inductive Stage where
  | received
  | opened
  | saved (stored : Stored)
  | kept (stored : Stored)
  | adrift

structure MadeFrom (zod : Library) (post : Post) (new : Consumer.NewOutboxEvent) (event : ContractEvent) : Prop where
  validated : post.route.Validated zod post.correlationId event
  eventId : new.eventId = event.eventId
  eventType : new.eventType = post.route.eventType
  payload : new.payload = event.toJson
  correlationId : new.correlationId = post.correlationId

def Unrefused {Value : Type} (outcome : Except RequestFailure Value) : Prop :=
  ∀ response, outcome ≠ .error (.badRequest response)

def accepting (zod : Library) : Protocol (Post × Stage) RequestFailure Request Reply where
  allows view
    | .startTransaction => view.2 = .received
    | .saveOutboxEvent new => view.2 = .opened ∧ ∃ event, MadeFrom zod view.1 new event
    | .commitTransaction => ∃ stored, view.2 = .saved stored
    | _ => True
  moves before request outcome after := after.1 = before.1 ∧ Unrefused outcome ∧ match request, outcome with
    | .startTransaction, .ok _ => after.2 = .opened
    | .saveOutboxEvent new, .ok row => after.2 = .saved ⟨row.id,new⟩
    | .commitTransaction, .ok _ => ∀ stored, before.2 = .saved stored → after.2 = .kept stored
    | .startTransaction, .error _ | .saveOutboxEvent _, .error _ | .commitTransaction, .error _
    | .rollbackTransaction, _ => after.2 = .adrift
    | _, _ => after.2 = before.2

def Answers (stage : Stage) : Except RequestFailure AcceptedResponse → Prop
  | .ok response => ∃ stored, stage = .kept stored ∧ response.outboxId = stored.id ∧
      response.eventId = stored.new.eventId
  | .error (.badRequest _) => stage = .received
  | .error (.thrown _) => True

theorem Answers.unrefused {stage : Stage} {error : RequestFailure} (unrefused : Unrefused (.error error : Except _ Unit)) :
    Answers stage (.error error) := by
  cases error with
  | badRequest response => exact (unrefused response rfl).elim
  | thrown error => trivial

theorem Unrefused.ok {Value : Type} {value : Value} : Unrefused (.ok value) := by
  rintro response ⟨⟩

theorem Unrefused.error {A B : Type} {error : RequestFailure} (unrefused : Unrefused (.error error : Except _ A)) :
    Unrefused (.error error : Except _ B) := by
  rintro response ⟨⟩
  exact unrefused response rfl

section programs
variable {zod : Library} {view : Post × Stage}

theorem quiet_call {request : Request} (quiet : request.quiet = true) :
    (accepting zod).Follows (Gateway.request request) view (fun after outcome => after = view ∧ Unrefused outcome) := by
  have here : ∀ after : Post × Stage, after.1 = view.1 ∧ after.2 = view.2 → after = view :=
    fun after same => Prod.ext same.1 same.2
  cases request with
  | startTransaction | saveOutboxEvent _ | commitTransaction | rollbackTransaction => cases quiet
  | randomUUID | newDate | inject | lifecycle _ | count _ | connect | release =>
    refine Protocol.Follows.call trivial ?_
    intro outcome after moved
    exact ⟨here after ⟨moved.1,by cases outcome <;> exact moved.2.2⟩,moved.2.1⟩

theorem quiet_before {Value : Type} {request : Request} (quiet : request.quiet = true)
    {next : Reply request → Program Value} {post : Post × Stage → Except RequestFailure Value → Prop}
    (resolved : ∀ reply, (accepting zod).Follows (next reply) view post)
    (rejected : ∀ error, Unrefused (.error error : Except _ Value) → post view (.error error)) :
    (accepting zod).Follows ((Gateway.request request).bind next) view post := by
  refine (quiet_call quiet).bind ?_ ?_
  · rintro after reply ⟨rfl,_⟩
    exact resolved reply
  · rintro after error ⟨rfl,unrefused⟩
    exact rejected error unrefused.error

theorem saveOutboxEvent_accepting {event : GatewayOutboxEventInput} {post : Post} {contract : ContractEvent}
    (made : ∀ now traceContext, MadeFrom zod post
      (GatewayOutboxTransactionService.newOutboxEvent event contract.eventId now traceContext) contract)
    (named : event.eventId = some contract.eventId) :
    (accepting zod).Follows (GatewayOutboxTransactionService.saveOutboxEvent event) (post,.opened)
      (fun after outcome => Unrefused outcome ∧ match outcome with
        | .ok row => ∃ stored, after = (post,.saved stored) ∧ row.id = stored.id ∧ stored.new.eventId = contract.eventId
        | .error _ => after.1 = post) := by
  unfold GatewayOutboxTransactionService.saveOutboxEvent
  simp only [Async.bind_eq]
  refine quiet_before rfl ?_ (fun _ unrefused => ⟨unrefused,rfl⟩)
  intro now
  refine quiet_before rfl ?_ (fun _ unrefused => ⟨unrefused,rfl⟩)
  intro traceContext
  rw [named]
  refine Protocol.Follows.call ⟨rfl,contract,made now traceContext⟩ ?_
  intro outcome after moved
  cases outcome with
  | ok row => exact ⟨moved.2.1,⟨row.id,_⟩,Prod.ext moved.1 moved.2.2,rfl,(made now traceContext).eventId⟩
  | error error => exact ⟨moved.2.1,moved.1⟩

def CommitsRow (post : Post) (contract : ContractEvent) (after : Post × Stage) (outcome : Except RequestFailure OutboxEvent) :
    Prop :=
  Unrefused outcome ∧ match outcome with
    | .ok row => ∃ stored, after = (post,.kept stored) ∧ row.id = stored.id ∧ stored.new.eventId = contract.eventId
    | .error _ => after.1 = post

theorem commit_accepting {post : Post} {contract : ContractEvent} {row : OutboxEvent} {stored : Stored}
    (id : row.id = stored.id) (eventId : stored.new.eventId = contract.eventId) :
    (accepting zod).Follows (do
      let _ ← Gateway.request .commitTransaction
      pure row) (post,.saved stored) (CommitsRow post contract) := by
  have committed : (accepting zod).Follows (Gateway.request .commitTransaction) (post,.saved stored)
      (fun after outcome => Unrefused outcome ∧ match outcome with
        | .ok _ => after = (post,.kept stored)
        | .error _ => after.1 = post) := by
    refine Protocol.Follows.call ⟨stored,rfl⟩ ?_
    intro outcome after moved
    cases outcome with
    | ok _ => exact ⟨moved.2.1,Prod.ext moved.1 (moved.2.2 stored rfl)⟩
    | error error => exact ⟨moved.2.1,moved.1⟩
  refine committed.bind ?_ (fun _ _ failed => ⟨failed.1.error,failed.2⟩)
  rintro after _ ⟨_,rfl⟩
  exact ⟨.ok,stored,rfl,id,eventId⟩

theorem rollback_accepting {post : Post} {contract : ContractEvent} {after : Post × Stage} {error : RequestFailure}
    (unrefused : Unrefused (.error error : Except _ OutboxEvent)) (same : after.1 = post) :
    (accepting zod).Follows ((Gateway.request .rollbackTransaction).bind (fun _ => .reject error)) after
      (CommitsRow post contract) := by
  have rolled : (accepting zod).Follows (Gateway.request .rollbackTransaction) after
      (fun later outcome => Unrefused outcome ∧ later.1 = post) :=
    Protocol.Follows.call trivial (fun outcome later moved => ⟨moved.2.1,moved.1.trans same⟩)
  exact rolled.bind (fun _ _ kept => ⟨unrefused,kept.2⟩) (fun _ _ kept => ⟨kept.1.error,kept.2⟩)

theorem record_accepting {event : GatewayOutboxEventInput} {post : Post} {contract : ContractEvent}
    (made : ∀ now traceContext, MadeFrom zod post
      (GatewayOutboxTransactionService.newOutboxEvent event contract.eventId now traceContext) contract)
    (named : event.eventId = some contract.eventId) :
    (accepting zod).Follows (GatewayOutboxTransactionService.record event) (post,.received)
      (CommitsRow post contract) := by
  unfold GatewayOutboxTransactionService.record GatewayOutboxTransactionService.runWithOutboxEvent
  simp only [Async.bind_eq]
  refine quiet_before rfl ?_ (fun _ unrefused => ⟨unrefused,rfl⟩)
  intro _
  have begun : (accepting zod).Follows (Gateway.request .startTransaction) (post,.received) (fun after outcome =>
      Unrefused outcome ∧ match outcome with
        | .ok _ => after = (post,.opened)
        | .error _ => after.1 = post) := by
    refine Protocol.Follows.call rfl ?_
    intro outcome after moved
    cases outcome with
    | ok _ => exact ⟨moved.2.1,Prod.ext moved.1 moved.2.2⟩
    | error error => exact ⟨moved.2.1,moved.1⟩
  refine begun.bind ?_ (fun _ _ failed => ⟨failed.1.error,failed.2⟩)
  rintro after _ ⟨_,rfl⟩
  refine Protocol.Follows.tryFinally (M := CommitsRow post contract) ?_ ?_
  · refine Protocol.Follows.tryCatch (M := CommitsRow post contract) ?_ (fun _ _ done => done) ?_
    · change (accepting zod).Follows ((GatewayOutboxTransactionService.saveOutboxEvent event).bind _) _ _
      refine Protocol.Follows.bind (saveOutboxEvent_accepting made named) ?_ (fun _ _ failed => ⟨failed.1,failed.2⟩)
      rintro after row ⟨_,stored,rfl,id,eventId⟩
      exact commit_accepting id eventId
    · intro after error failed
      exact rollback_accepting failed.1 failed.2
  · intro after outcome done
    refine (quiet_call rfl).mono ?_
    rintro later released ⟨rfl,unrefused⟩
    cases released with
    | ok _ => exact done
    | error error =>
      refine ⟨unrefused.error,?_⟩
      cases outcome with
      | ok row =>
        obtain ⟨_,stored,same,_⟩ := done
        exact congrArg Prod.fst same
      | error other => exact done.2

theorem refuse_accepting (route : ProducerRoute) (correlationId : Option String) (eventId : String)
    (errors : List ValidationFailureDetail) (post : Post) :
    (accepting zod).Follows (route.refuse correlationId eventId errors) (post,.received)
      (fun after outcome => Answers after.2 outcome) := by
  unfold ProducerRoute.refuse
  simp only [Async.bind_eq]
  refine quiet_before rfl ?_ (fun _ unrefused => .unrefused unrefused.error)
  intro _
  refine quiet_before rfl ?_ (fun _ unrefused => .unrefused unrefused.error)
  intro _
  rfl

theorem recordValid_accepting {post : Post} {event : ContractEvent}
    (validated : post.route.Validated zod post.correlationId event) :
    (accepting zod).Follows (post.route.recordValid post.correlationId event) (post,.received)
      (fun after outcome => Answers after.2 outcome) := by
  unfold ProducerRoute.recordValid
  refine Protocol.Follows.tryCatch (M := fun after outcome => Unrefused outcome ∧ Answers after.2 outcome) ?_
    (fun _ _ done => done.2) ?_
  · unfold ProducerRoute.persist
    simp only [Async.bind_eq]
    have made : ∀ now traceContext, MadeFrom zod post (GatewayOutboxTransactionService.newOutboxEvent
        (post.route.descriptor post.correlationId event) event.eventId now traceContext) event :=
      fun _ _ => ⟨validated,rfl,rfl,rfl,rfl⟩
    refine (record_accepting made rfl).bind ?_
      (fun _ _ failed => ⟨failed.1.error,.unrefused failed.1.error⟩)
    rintro after row ⟨_,stored,rfl,id,eventId⟩
    refine quiet_before rfl ?_ (fun _ unrefused => ⟨unrefused,.unrefused unrefused.error⟩)
    intro _
    refine quiet_before rfl ?_ (fun _ unrefused => ⟨unrefused,.unrefused unrefused.error⟩)
    intro _
    exact ⟨.ok,stored,rfl,id,eventId.symm⟩
  · intro after error failed
    exact quiet_before rfl (fun _ => .unrefused failed.1.error) (fun _ unrefused => .unrefused unrefused.error)

theorem handle_accepting (zod : Library) (post : Post) :
    (accepting zod).Follows (post.route.handle zod post.correlationId) (post,.received)
      (fun after outcome => Answers after.2 outcome) := by
  unfold ProducerRoute.handle
  simp only [Async.bind_eq]
  refine quiet_before rfl ?_ (fun _ unrefused => .unrefused unrefused.error)
  intro randomUUID
  refine quiet_before rfl ?_ (fun _ unrefused => .unrefused unrefused.error)
  intro now
  cases built : post.route.build post.correlationId randomUUID now with
  | invalid issues kept => trivial
  | valid event =>
    cases validated : validateEvent zod (some event) post.route.version with
    | error errors =>
      simp only [validated]
      exact refuse_accepting post.route post.correlationId randomUUID errors post
    | ok valid =>
      simp only [validated]
      exact recordValid_accepting ⟨randomUUID,now,event,built,validated⟩

end programs

/-- The protocol of the whole program: the answer to the client comes last. -/
def serving (zod : Library) : Protocol (Post × Stage) RequestFailure Demand Demand.Reply where
  allows view
    | .step request => (accepting zod).allows view request
    | .respond outcome => Answers view.2 outcome
  moves before demand outcome after := match demand, outcome with
    | .step request, outcome => (accepting zod).moves before request outcome after
    | .respond _, _ => after = (before.1,.adrift)

theorem Post.program_serving (zod : Library) (post : Post) :
    (serving zod).Follows (post.program zod) (post,.received) (fun _ _ => True) := by
  have translated : (serving zod).Follows
      ((post.route.handle zod post.correlationId).translate Demand.step (fun _ reply => reply)) (post,.received)
      (fun after outcome => Answers after.2 outcome) := by
    refine Async.follows_translate (P := accepting zod) (Q := serving zod) ?_ ?_ (handle_accepting zod post)
    · exact fun _ _ allowed => allowed
    · intro before request outcome after moved
      cases outcome <;> exact moved
  have settled : (serving zod).Follows ((post.route.handle zod post.correlationId).translate .step (fun _ reply => reply)).settle
      (post,.received) (fun after outcome => ∀ answer, outcome = .ok answer → Answers after.2 answer) := by
    refine Protocol.Follows.settle (translated.mono ?_)
    rintro after outcome answers answer ⟨⟩
    exact answers
  refine settled.bind ?_ (fun _ _ _ => trivial)
  intro after outcome answers
  exact Protocol.Follows.call (answers outcome rfl) (fun _ _ _ => trivial)

end MessagingPlatform.Gateway
