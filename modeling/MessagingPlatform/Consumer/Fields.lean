import MessagingPlatform.Consumer.ExactlyOnce
import MessagingPlatform.Consumer.Requests
import MessagingPlatform.Contracts.Evolution
import MessagingPlatform.Messages.Pagination

/-! From the payload of an event to the rows that its processing commits. Every row of a transaction is
made from the event that its program was started for. -/
namespace MessagingPlatform.Consumer
open Schema OutboxTransactionService

def acceptedOf (settings : Settings) (body : Body) (headers : Headers) : Option ContractEvent :=
  match dispatch body with
  | some (.handleMessage,data) =>
      match MessagingController.validate settings.engine settings.zod headers data with
      | .ok event => some event
      | .error _ => none
  | _ => none

structure Outgoing (event : ContractEvent) (row : NewOutboxEvent) : Prop where
  payload : row.payload = .obj [("title",.str event.subject)]
  correlationId : row.correlationId = some event.correlationId

def Request.madeFrom (accepted : Option ContractEvent) : Request → Prop
  | .saveMessage row => ∃ event ∈ accepted, row.title = event.subject ∧ row.content = event.content
  | .saveOutboxEvent row => ∃ event ∈ accepted, Outgoing event row
  | _ => True

abbrev MadeFrom (accepted : Option ContractEvent) {Value : Type} (program : Program Value) : Prop :=
  program.Asks (Request.madeFrom accepted)

def Request.rowless : Request → Bool
  | .saveMessage _ | .saveOutboxEvent _ => false
  | _ => true

section handler
variable {accepted : Option ContractEvent}

theorem Request.madeFrom_of_rowless {request : Request} (rowless : request.rowless = true) :
    request.madeFrom accepted := by
  cases request with
  | saveMessage _ | saveOutboxEvent _ => cases rowless
  | _ => trivial

theorem normalize_fields {zod : Library} {raw : Option Json} {version : SchemaVersion} {event : ContractEvent}
    {normalized : CreateMessageEventV2} (valid : validateEvent zod raw version = .ok event)
    (upcast : MessagingController.normalize event = .valid normalized) :
    normalized.payload.subject = event.subject ∧ normalized.payload.content = event.content ∧
      normalized.correlationId = event.correlationId := by
  cases version with
  | v1 =>
    obtain ⟨v1,rfl,read⟩ := validateEvent_v1.mp valid
    obtain ⟨envelope,subject,content,-⟩ := (upcast_eq_iff read normalized).mp upcast
    exact ⟨subject,content,congrArg EventEnvelope.correlationId envelope⟩
  | v2 =>
    obtain ⟨v2,rfl,-⟩ := validateEvent_v2.mp valid
    obtain rfl := Parsed.valid.inj upcast
    exact ⟨rfl,rfl,rfl⟩

theorem processEvent_madeFrom {event : ContractEvent} {normalized : CreateMessageEventV2} (eventTypeName : String)
    (subject : normalized.payload.subject = event.subject) (content : normalized.payload.content = event.content)
    (correlationId : normalized.correlationId = event.correlationId) :
    MadeFrom (some event) (MessagingController.processEvent normalized eventTypeName) := by
  apply processEvent_asks
  · refine runIdempotentWithOutboxEvents_asks ?_ trivial ?_ ?_
    · intro request bare
      apply Request.madeFrom_of_rowless
      cases request <;> first | rfl | cases bare
    · exact Async.Asks.call ⟨event,rfl,subject,content⟩
    · intro input member row _ payload correlation
      obtain rfl := List.mem_singleton.mp member
      refine ⟨event,rfl,?_,?_⟩
      · rw [payload,← subject]
        rfl
      · rw [correlation,← correlationId]
        rfl
  · intro request processes other
    apply Request.madeFrom_of_rowless
    cases request <;> first | rfl | cases other

theorem handleMessage_madeFrom {settings : Settings} {body : Body} {headers : Headers} {data : Option Json}
    (dispatched : dispatch body = some (.handleMessage,data)) : MadeFrom (acceptedOf settings body headers)
      (MessagingController.handleMessage settings.engine settings.zod ⟨body,headers,data⟩) := by
  apply handleMessage_asks
  · intro request plain
    apply Request.madeFrom_of_rowless
    cases request <;> first | rfl | cases plain
  · intro copied correlationId
    apply (publishToRetry_republishes _ _ _ _ _).mono
    intro request republishes
    apply Request.madeFrom_of_rowless
    cases request <;> first | rfl | cases republishes
  · intro event normalized eventTypeName validated upcast
    have found : acceptedOf settings body headers = some event := by simp [acceptedOf,dispatched,validated]
    rw [found]
    obtain ⟨subject,content,correlationId⟩ := normalize_fields validated upcast
    exact processEvent_madeFrom eventTypeName subject content correlationId

end handler

def State.acceptedBy (settings : Settings) (state : State) (pid : Nat) : Option ContractEvent :=
  (state.delivered pid).bind (fun tag => state.envelopes[tag]?.bind (fun envelope =>
    acceptedOf settings envelope.body envelope.headers))

structure Transaction.MadeFrom (accepted : Option ContractEvent) (transaction : Transaction) : Prop where
  messages : ∀ message ∈ transaction.messages, ∃ event ∈ accepted,
    message.title = event.subject ∧ message.content = event.content
  outbox : ∀ row ∈ transaction.outbox, ∃ event ∈ accepted, Outgoing event row

structure Attributed (settings : Settings) (fresh : Nat) (state : State) : Prop where
  started : ∀ transaction ∈ state.transactions, transaction.pid < fresh
  made : ∀ transaction ∈ state.transactions, transaction.MadeFrom (state.acceptedBy settings transaction.pid)

def attributing : Protocol (Option ContractEvent) Thrown Request Reply where
  allows accepted request := request.madeFrom accepted
  moves accepted _ _ after := after = accepted

def Accepts (settings : Settings) (pid : Nat) (state : State) (accepted : Option ContractEvent) : Prop :=
  ∀ event ∈ accepted, state.acceptedBy settings pid = some event

section system
variable {settings : Settings} {fresh pid : Nat} {before after : State} {accepted : Option ContractEvent}

theorem Transaction.MadeFrom.mono {transaction : Transaction} {other : Option ContractEvent}
    (made : transaction.MadeFrom accepted) (kept : ∀ event ∈ accepted, event ∈ other) :
    transaction.MadeFrom other where
  messages message member := by
    obtain ⟨event,found,same⟩ := made.messages message member
    exact ⟨event,kept event found,same⟩
  outbox row member := by
    obtain ⟨event,found,same⟩ := made.outbox row member
    exact ⟨event,kept event found,same⟩

theorem acceptedBy_congr (envelopes : after.envelopes = before.envelopes) {other : Nat}
    (delivered : after.delivered other = before.delivered other) :
    after.acceptedBy settings other = before.acceptedBy settings other := by
  simp only [State.acceptedBy,envelopes,delivered]

theorem Change.acceptedBy (change : Change pid before after) (other : Nat) :
    after.acceptedBy settings other = before.acceptedBy settings other :=
  acceptedBy_congr change.envelopes (congrFun change.delivered other)

theorem Grows.acceptedBy (grows : Grows before after) (other : Nat) {event : ContractEvent}
    (found : before.acceptedBy settings other = some event) : after.acceptedBy settings other = some event := by
  obtain ⟨added,grown⟩ := grows.envelopes
  obtain ⟨tag,delivered,here⟩ := Option.bind_eq_some_iff.mp found
  obtain ⟨envelope,present,same⟩ := Option.bind_eq_some_iff.mp here
  have known : tag < before.envelopes.length := (List.getElem?_eq_some_iff.mp present).1
  simp only [State.acceptedBy,grows.delivered,delivered,grown,Option.bind_some]
  rw [List.getElem?_append_left known,present]
  exact same

namespace Attributed

theorem writes (attributed : Attributed settings fresh before) {set : Transaction → Transaction}
    (written : Writes pid set before after)
    (made : ∀ old ∈ before.transactions, old.activeOf pid = true →
      (set old).MadeFrom (before.acceptedBy settings old.pid)) : Attributed settings fresh after := by
  have change := Change.writes set written
  refine ⟨?_,?_⟩
  · intro transaction member
    obtain ⟨old,present,rfl⟩ := (written.transactions transaction).mp member
    split
    next => rw [written.keepsPid]; exact attributed.started old present
    next => exact attributed.started old present
  · intro transaction member
    rw [change.acceptedBy]
    obtain ⟨old,present,rfl⟩ := (written.transactions transaction).mp member
    split
    next active => rw [written.keepsPid]; exact made old present active
    next => exact attributed.made old present

theorem same (attributed : Attributed settings fresh before) (records : SameRecords before after) :
    Attributed settings fresh after := by
  have change : Change fresh before after := .same records
  refine ⟨records.transactions ▸ attributed.started,?_⟩
  intro transaction member
  rw [change.acceptedBy]
  exact attributed.made transaction (records.transactions ▸ member)

theorem begins (attributed : Attributed settings fresh before) (below : pid < fresh)
    (begun : Begins pid before after) : Attributed settings fresh after := by
  have change := Change.begins begun
  refine ⟨?_,?_⟩
  · intro transaction member
    rcases (begun.transactions transaction).mp member with old | rfl
    · exact attributed.started transaction old
    · exact below
  · intro transaction member
    rw [change.acceptedBy]
    rcases (begun.transactions transaction).mp member with old | rfl
    · exact attributed.made transaction old
    · exact ⟨fun _ absent => (List.not_mem_nil absent).elim,fun _ absent => (List.not_mem_nil absent).elim⟩

theorem serve (attributed : Attributed settings fresh before) (below : pid < fresh)
    (accepts : Accepts settings pid before accepted) {request : Request} {choice : Choice}
    {reply : Except Thrown (Reply request)} (allowed : request.madeFrom accepted)
    (served : before.serve pid request choice = some (reply,after)) : Attributed settings fresh after := by
  have kept : ∀ old ∈ before.transactions, old.MadeFrom (before.acceptedBy settings old.pid) := attributed.made
  cases apart : request.transacts with
  | false => exact attributed.same (State.serve_same apart served)
  | true =>
    cases request with
    | startTransaction => exact attributed.begins below (State.serve_startTransaction served).2
    | saveProcessedEvent row =>
      rcases State.serve_saveProcessedEvent served with ⟨_,rfl,_⟩ | ⟨_,rfl,_⟩
      · refine attributed.writes (State.writes_modify _ _ _ _) ?_
        intro old present _
        exact ⟨(kept old present).messages,(kept old present).outbox⟩
      · exact attributed
    | saveMessage row =>
      obtain ⟨message,rfl,written⟩ := State.serve_saveMessage served
      refine attributed.writes written ?_
      intro old present active
      refine ⟨?_,(kept old present).outbox⟩
      intro message member
      rcases List.mem_append.mp member with earlier | new
      · exact (kept old present).messages message earlier
      · obtain rfl := List.mem_singleton.mp new
        obtain ⟨event,found,title,content⟩ := allowed
        rw [(Transaction.activeOf_iff.mp active).1]
        exact ⟨event,accepts event found,title,content⟩
    | saveOutboxEvent row =>
      obtain ⟨_,rfl⟩ := State.serve_saveOutboxEvent served
      refine attributed.writes (State.writes_modify _ _ _ _) ?_
      intro old present active
      refine ⟨(kept old present).messages,?_⟩
      intro other member
      rcases List.mem_append.mp member with earlier | new
      · exact (kept old present).outbox other earlier
      · obtain rfl := List.mem_singleton.mp new
        obtain ⟨event,found,outgoing⟩ := allowed
        rw [(Transaction.activeOf_iff.mp active).1]
        exact ⟨event,accepts event found,outgoing⟩
    | commitTransaction =>
      obtain ⟨_,_,rfl⟩ := State.serve_commitTransaction served
      refine attributed.writes (State.writes_modify _ _ _ _) ?_
      intro old present _
      exact ⟨(kept old present).messages,(kept old present).outbox⟩
    | rollbackTransaction =>
      obtain rfl := State.serve_rollbackTransaction served
      refine attributed.writes (State.writes_modify _ _ _ _) ?_
      intro old present _
      exact ⟨(kept old present).messages,(kept old present).outbox⟩
    | lifecycle _ | recordAttempt _ | clearAttempts _ | connect | release | newDate | randomUUID | inject
    | getChannel | publish _ _ | waitForConfirms _ | ack | nack _ | count _ => cases apart

theorem external (attributed : Attributed settings fresh before) {event : External}
    (happened : before.external event = some after) : Attributed settings fresh after ∧
      ∀ pid accepted, Accepts settings pid before accepted → Accepts settings pid after accepted := by
  obtain ⟨grows,same | ⟨pid,written⟩⟩ := State.external_grows happened
  · refine ⟨⟨same ▸ attributed.started,?_⟩,?_⟩
    · intro transaction member
      exact (attributed.made transaction (same ▸ member)).mono (fun _ => grows.acceptedBy _)
    · intro pid accepted accepts event found
      exact grows.acceptedBy pid (accepts event found)
  · refine ⟨attributed.writes written ?_,?_⟩
    · intro old present _
      exact ⟨(attributed.made old present).messages,(attributed.made old present).outbox⟩
    · intro other accepted accepts event found
      exact grows.acceptedBy other (accepts event found)

theorem deliver (attributed : Attributed settings fresh before) {tag : Nat} {program : Program Unit}
    (started : before.deliver settings fresh tag = some (program,after)) :
    Attributed settings (fresh + 1) after ∧
    (∃ accepted, Accepts settings fresh after accepted ∧
      attributing.Follows program accepted (fun _ _ => True)) ∧
    ∀ pid, pid < fresh → ∀ accepted, Accepts settings pid before accepted → Accepts settings pid after accepted := by
  obtain ⟨⟨envelope,data,found,dispatched,rfl⟩,shape⟩ := State.deliver_program started
  have transactions : after.transactions = before.transactions := by rw [shape]; rfl
  have envelopes : after.envelopes = before.envelopes := by rw [shape]; rfl
  have delivered : after.delivered = Function.update before.delivered fresh (some tag) := by rw [shape]
  have older : ∀ pid, pid < fresh → after.acceptedBy settings pid = before.acceptedBy settings pid := by
    intro pid below
    apply acceptedBy_congr envelopes
    rw [delivered,Function.update_of_ne below.ne]
  refine ⟨⟨?_,?_⟩,⟨acceptedOf settings envelope.body envelope.headers,?_,?_⟩,?_⟩
  · intro transaction member
    exact Nat.lt_succ_of_lt (attributed.started transaction (transactions ▸ member))
  · intro transaction member
    have present : transaction ∈ before.transactions := transactions ▸ member
    rw [older _ (attributed.started transaction present)]
    exact attributed.made transaction present
  · intro event same
    simp only [State.acceptedBy,delivered,envelopes,Function.update_self,Option.bind_some,found]
    exact same
  · have asks : MadeFrom (acceptedOf settings envelope.body envelope.headers) _ := handleMessage_madeFrom dispatched
    exact (asks.still (fun _ made => made) (fun _ _ _ _ moved => moved)).mono (fun _ _ _ => trivial)
  · intro pid below accepted accepts event member
    rw [older pid below]
    exact accepts event member

theorem sound (settings : Settings) : (consumerWorld settings).Sound attributing (fun _ _ => True) anything
    (Attributed settings) (Accepts settings) where
  starts fresh state task program after attributed _ started := by
    obtain ⟨tag⟩ := task
    exact attributed.deliver started
  serves fresh state pid view request answer choice reply after attributed below accepts allowed _ _ served := by
    have change := State.serve_changes served
    have kept : ∀ other view, Accepts settings other state view → Accepts settings other after view := by
      intro other view accepts event member
      rw [change.acceptedBy]
      exact accepts event member
    exact ⟨attributed.serve below accepts allowed served,fun _ _ => ⟨view,rfl,kept pid view accepts⟩,
      fun other _ => kept other⟩
  refuses _ _ _ view _ _ _ accepts _ _ := ⟨view,rfl,accepts⟩
  crashes _ _ _ attributed _ := ⟨attributed,fun _ _ _ accepts => accepts⟩
  externals _ _ _ _ attributed _ happened := attributed.external happened

theorem initial (settings : Settings) : Attributed settings 0 .initial where
  started transaction member := absurd member (Table.not_mem_empty transaction)
  made transaction member := absurd member (Table.not_mem_empty transaction)

end Attributed

/-- The row of a message. `em.create` is given no recipient, so the insert leaves that column null. -/
def Message.stored (message : Message) (createdAt : Messages.Timestamp) : Messages.Message :=
  ⟨message.id,message.title,message.content,message.sender,none,createdAt⟩

/-- The rows hold the fields of the event, and the outbox row those of the message. -/
structure FieldsPreserved (event : ContractEvent) (message : Messages.Message) (row : NewOutboxEvent) : Prop where
  title : message.title = event.subject
  content : message.content = event.content
  recipient : message.recipient = event.recipient
  messageId : row.payload.get? "messageId" = some (.num message.id)
  persistedTitle : row.payload.get? "title" = some (.str message.title)
  correlationId : row.correlationId = some event.correlationId

theorem Outgoing.unidentified {event : ContractEvent} {row : NewOutboxEvent} (outgoing : Outgoing event row) :
    row.payload.get? "messageId" = none ∧ row.payload.get? "title" = some (.str event.subject) := by
  rw [outgoing.payload]
  exact ⟨rfl,rfl⟩

/-- A transaction that commits has one message and one outbox row, with the title, the content and the
correlation id of the event. No recipient is kept, and the outbox row never names the message. -/
theorem fields_never_preserved (settings : Settings) {pool : ConsumerPool}
    (reached : (consumerWorld settings).Reach anything .initial pool) {transaction : Transaction}
    (committed : transaction ∈ pool.shared.committed) :
    ∃ event message row, pool.shared.acceptedBy settings transaction.pid = some event ∧
      transaction.messages = [message] ∧ transaction.outbox = [row] ∧ row.eventType = "MessagePersisted" ∧
      (message.title = event.subject ∧ message.content = event.content ∧
        row.payload.get? "title" = some (.str message.title) ∧ row.correlationId = some event.correlationId) ∧
      ∀ createdAt, ((message.stored createdAt).recipient = event.recipient ↔ event.recipient = none) ∧
        ¬ FieldsPreserved event (message.stored createdAt) row := by
  obtain ⟨present,status⟩ := Consistent.mem_committed.mp committed
  have consistent := World.reach_inv (Consistent.sound settings) (Consistent.initial settings) reached
  have attributed := World.reach_inv (Attributed.sound settings) (Attributed.initial settings) reached
  obtain ⟨_,_,_,single,types⟩ := consistent.complete transaction present status
  obtain ⟨message,messages⟩ := List.length_eq_one_iff.mp single
  obtain ⟨row,rest,outbox,type,last⟩ := List.map_eq_cons_iff.mp types
  obtain rfl := List.map_eq_nil_iff.mp last
  have made := attributed.made transaction present
  obtain ⟨event,accepted,title,content⟩ := made.messages message (by simp [messages])
  obtain ⟨other,same,outgoing⟩ := made.outbox row (by simp [outbox])
  obtain rfl : event = other := Option.some.inj (accepted.symm.trans same)
  obtain ⟨unidentified,titled⟩ := outgoing.unidentified
  refine ⟨event,message,row,accepted,messages,outbox,type,⟨title,content,?_,outgoing.correlationId⟩,?_⟩
  · rw [titled,title]
  · intro createdAt
    refine ⟨eq_comm,?_⟩
    intro preserved
    exact absurd (unidentified.symm.trans preserved.messageId) (by simp)

end system

def addressedDelivery : List ConsumerAction :=
  [.external (.enqueue (.stringify (Json.ofFields [("pattern",some (.str CreateMessageEvent.nameV1)),
      ("data",some (ContractEvent.v1 ⟨"11111111-1111-4111-8111-111111111111","22222222-2222-4222-8222-222222222222",
        "2026-01-01T00:00:00.000Z",.gateway,[.gateway],none,⟨"a","b",some "carol"⟩⟩).toJson)])) []),
    .start (.deliver 0)] ++ List.replicate 12 (.resume 0 (.served {}))

set_option maxRecDepth 4000 in
def addressedPool : ConsumerPool := (sampleRun addressedDelivery).get (by decide)

theorem addressed_run : sampleRun addressedDelivery = some addressedPool := (Option.some_get _).symm

set_option maxRecDepth 4000 in
theorem addressed_event_unpreserved : ∃ transaction ∈ addressedPool.shared.committed, ∃ event message row,
    transaction.messages = [message] ∧ transaction.outbox = [row] ∧
      ∀ createdAt, ¬ FieldsPreserved event (message.stored createdAt) row := by
  have reached : (consumerWorld sampleSettings).Reach anything .initial addressedPool :=
    Machine.run_reaches addressed_run (by decide)
  have some : addressedPool.shared.committed ≠ [] := by decide
  obtain ⟨event,message,row,_,messages,outbox,_,_,unpreserved⟩ :=
    fields_never_preserved sampleSettings reached (List.head_mem some)
  exact ⟨_,List.head_mem some,event,message,row,messages,outbox,fun createdAt => (unpreserved createdAt).2⟩

set_option maxRecDepth 4000 in
theorem addressed_fields_lost : ¬ ∀ transaction ∈ addressedPool.shared.committed,
    ∀ event ∈ addressedPool.shared.acceptedBy sampleSettings transaction.pid,
    ∀ message ∈ transaction.messages, ∀ row ∈ transaction.outbox,
      ∃ createdAt, FieldsPreserved event (message.stored createdAt) row := by
  intro preserved
  let transaction := addressedPool.shared.committed.head (by decide)
  let event := (addressedPool.shared.acceptedBy sampleSettings transaction.pid).get (by decide)
  obtain ⟨createdAt,rows⟩ := preserved transaction (List.head_mem _) event (Option.get_mem _)
    (transaction.messages.head (by decide)) (List.head_mem _) (transaction.outbox.head (by decide)) (List.head_mem _)
  have unidentified : none = some _ := rows.messageId
  cases unidentified

end MessagingPlatform.Consumer
