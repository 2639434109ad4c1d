import MessagingPlatform.Consumer.Discipline

/-! Steps of the consumer system taken apart: what a served request does to the database, and
what requests and external events leave alone. -/
namespace MessagingPlatform.Consumer

/-- A write to the active transaction of a program, and nothing else that transactions or
deliveries are known by. -/
structure Writes (pid : Nat) (set : Transaction → Transaction) (before after : State) : Prop where
  keepsPid : ∀ transaction, (set transaction).pid = transaction.pid
  transactions : ∀ transaction, transaction ∈ after.transactions ↔
    ∃ old ∈ before.transactions, transaction = if old.activeOf pid then set old else old
  envelopes : after.envelopes = before.envelopes
  delivered : after.delivered = before.delivered

structure Begins (pid : Nat) (before after : State) : Prop where
  absent : ∀ transaction ∈ before.transactions, transaction.pid ≠ pid
  transactions : ∀ transaction, transaction ∈ after.transactions ↔
    transaction ∈ before.transactions ∨ transaction = ⟨pid,.active,[],[],[]⟩
  envelopes : after.envelopes = before.envelopes
  delivered : after.delivered = before.delivered

structure SameRecords (before after : State) : Prop where
  transactions : after.transactions = before.transactions
  envelopes : after.envelopes = before.envelopes
  delivered : after.delivered = before.delivered

theorem Transaction.activeOf_iff {pid : Nat} {transaction : Transaction} :
    transaction.activeOf pid = true ↔ transaction.pid = pid ∧ transaction.status = .active := by
  simp [activeOf]

namespace State

variable {state after : State} {pid : Nat} {choice : Choice}

theorem writes_modify (state : State) (pid : Nat) (set : Transaction → Transaction)
    (keepsPid : ∀ transaction, (set transaction).pid = transaction.pid) :
    Writes pid set state (state.modify pid set keepsPid) where
  keepsPid := keepsPid
  transactions _ := Table.mem_apply
  envelopes := rfl
  delivered := rfl

theorem active_iff : state.active pid = true ↔
    ∃ transaction ∈ state.transactions, transaction.activeOf pid = true := by
  simp [active,Table.mem_rows]

theorem recorded_iff {eventId : String} {holds : Transaction → Bool} :
    state.recorded eventId holds = true ↔ ∃ transaction ∈ state.transactions,
      holds transaction = true ∧ transaction.records eventId = true := by
  simp [recorded,Table.mem_rows]

theorem serve_startTransaction {reply : Except Thrown Unit}
    (served : state.serve pid .startTransaction choice = some (reply,after)) :
    reply = .ok () ∧ Begins pid state after := by
  simp only [serve] at served
  split at served
  next fresh =>
    obtain ⟨replied,rfl⟩ := Prod.mk.inj (Option.some.inj served)
    refine ⟨replied.symm,?_,?_,rfl,rfl⟩
    · intro transaction member owner
      exact fresh (List.mem_map.mpr ⟨transaction,member,owner⟩)
    · intro transaction
      exact Table.mem_insert fresh
  next => cases served

/-- The ledger insert succeeds on a new event, or it rejects because the event is recorded. -/
theorem serve_saveProcessedEvent {row : IdempotencyInput} {reply : Except Thrown Unit}
    (served : state.serve pid (.saveProcessedEvent row) choice = some (reply,after)) :
    (reply = .ok () ∧ after = state.modify pid (fun transaction =>
        { transaction with ledger := transaction.ledger ++ [row] }) (fun _ => rfl) ∧
      ∀ transaction ∈ state.transactions, transaction.status ≠ .rolledBack →
        transaction.records row.eventId = false) ∨
    (reply = .error uniqueViolation ∧ after = state ∧ ∃ transaction ∈ state.transactions,
      (transaction.status = .committed ∨ transaction.activeOf pid = true) ∧
        transaction.records row.eventId = true) := by
  simp only [serve,saveProcessedEvent] at served
  split at served
  next =>
    split at served
    next conflict =>
      obtain ⟨replied,rfl⟩ := Prod.mk.inj (Option.some.inj served)
      obtain ⟨transaction,member,holds,records⟩ := recorded_iff.mp conflict
      simp only [Bool.or_eq_true,beq_iff_eq] at holds
      exact .inr ⟨replied.symm,rfl,transaction,member,holds,records⟩
    next settled =>
      split at served
      next => cases served
      next waiting =>
        obtain ⟨replied,rfl⟩ := Prod.mk.inj (Option.some.inj served)
        refine .inl ⟨replied.symm,rfl,?_⟩
        intro transaction member live
        by_contra records
        have recorded : transaction.records row.eventId = true := by simpa using records
        cases status : transaction.status with
        | rolledBack => exact live status
        | committed => exact settled (recorded_iff.mpr ⟨transaction,member,by simp [status],recorded⟩)
        | active => exact waiting (recorded_iff.mpr ⟨transaction,member,by simp [status],recorded⟩)
  next => cases served

theorem serve_saveMessage {row : NewMessage} {reply : Except Thrown Message}
    (served : state.serve pid (.saveMessage row) choice = some (reply,after)) :
    ∃ message : Message, message = ⟨state.nextMessageId,row.title,row.content,row.sender⟩ ∧ Writes pid
      (fun transaction => { transaction with messages := transaction.messages ++ [message] }) state after := by
  simp only [serve] at served
  split at served
  next =>
    obtain ⟨_,rfl⟩ := Prod.mk.inj (Option.some.inj served)
    have writes := state.writes_modify pid (fun transaction => { transaction with
      messages := transaction.messages ++ [⟨state.nextMessageId,row.title,row.content,row.sender⟩] })
      (fun _ => rfl)
    exact ⟨_,rfl,writes.keepsPid,writes.transactions,rfl,rfl⟩
  next => cases served

theorem serve_saveOutboxEvent {row : NewOutboxEvent} {reply : Except Thrown Unit}
    (served : state.serve pid (.saveOutboxEvent row) choice = some (reply,after)) :
    reply = .ok () ∧ after = state.modify pid (fun transaction =>
      { transaction with outbox := transaction.outbox ++ [row] }) (fun _ => rfl) := by
  simp only [serve,Option.ite_none_right_eq_some,Option.some.injEq,Prod.mk.injEq] at served
  exact ⟨served.2.1.symm,served.2.2.symm⟩

theorem serve_commitTransaction {reply : Except Thrown Unit}
    (served : state.serve pid .commitTransaction choice = some (reply,after)) :
    reply = .ok () ∧ (∃ transaction ∈ state.transactions, transaction.activeOf pid = true) ∧
      after = state.modify pid (fun transaction => { transaction with status := .committed })
        (fun _ => rfl) := by
  simp only [serve,Option.ite_none_right_eq_some,Option.some.injEq,Prod.mk.injEq] at served
  exact ⟨served.2.1.symm,active_iff.mp served.1,served.2.2.symm⟩

theorem serve_rollbackTransaction {reply : Except Thrown Unit}
    (served : state.serve pid .rollbackTransaction choice = some (reply,after)) :
    after = state.modify pid (fun transaction => { transaction with status := .rolledBack })
      (fun _ => rfl) :=
  (Prod.mk.inj (Option.some.inj served)).2.symm

theorem settle_eq {received : Bool} {targets : Copy → List Copy} {reply : Except Thrown Unit}
    (settled : state.settle pid received targets = some (reply,after)) :
    reply = .ok () ∧ after = if received then state.replace (heldBy pid) targets else state := by
  simp only [settle,Option.ite_none_right_eq_some,Option.some.injEq,Prod.mk.injEq] at settled
  exact ⟨settled.2.1.symm,settled.2.2.symm⟩

end State

def Request.transacts : Request → Bool
  | .startTransaction | .saveProcessedEvent _ | .saveMessage _ | .saveOutboxEvent _
  | .commitTransaction | .rollbackTransaction => true
  | .lifecycle _ | .recordAttempt _ | .clearAttempts _ | .connect | .release | .newDate | .randomUUID
  | .inject | .getChannel | .publish _ _ | .waitForConfirms _ | .ack | .nack _ | .count _ => false

namespace State

variable {state after : State} {pid : Nat} {choice : Choice}

theorem settle_same {received : Bool} {targets : Copy → List Copy} {reply : Except Thrown Unit}
    (settled : state.settle pid received targets = some (reply,after)) : SameRecords state after := by
  obtain ⟨_,rfl⟩ := settle_eq settled
  cases received <;> exact ⟨rfl,rfl,rfl⟩

theorem serve_same {request : Request} {reply : Except Thrown (Reply request)}
    (apart : request.transacts = false) (served : state.serve pid request choice = some (reply,after)) :
    SameRecords state after := by
  cases request with
  | startTransaction | saveProcessedEvent _ | saveMessage _ | saveOutboxEvent _ | commitTransaction
  | rollbackTransaction => cases apart
  | lifecycle _ | connect | release | count _ | recordAttempt _ | clearAttempts _ | newDate | randomUUID
  | getChannel | publish _ _ =>
    obtain ⟨_,rfl⟩ := Prod.mk.inj (Option.some.inj served)
    exact ⟨rfl,rfl,rfl⟩
  | inject =>
    simp only [serve,Option.ite_none_right_eq_some,Option.some.injEq,Prod.mk.injEq] at served
    obtain ⟨_,_,rfl⟩ := served
    exact ⟨rfl,rfl,rfl⟩
  | waitForConfirms channel =>
    simp only [serve,Option.ite_none_right_eq_some,Option.some.injEq,Prod.mk.injEq] at served
    obtain ⟨_,_,rfl⟩ := served
    exact ⟨rfl,rfl,rfl⟩
  | ack => exact settle_same served
  | nack requeue => cases requeue <;> exact settle_same served

theorem serve_honest {request : Request} {reply outcome : Except Thrown (Reply request)}
    (served : state.serve pid request choice = some (reply,after))
    (possible : outcome = reply ∨ ∃ error, outcome = .error error) : honest request outcome := by
  rcases possible with rfl | ⟨error,rfl⟩
  · cases request with
    | inject =>
      simp only [serve,Option.ite_none_right_eq_some,Option.some.injEq,Prod.mk.injEq] at served
      obtain ⟨own,replied,_⟩ := served
      subst replied
      intro entry member
      exact of_decide_eq_true (List.all_eq_true.mp own entry member)
    | lifecycle _ | recordAttempt _ | clearAttempts _ | connect | startTransaction
    | saveProcessedEvent _ | saveMessage _ | saveOutboxEvent _ | commitTransaction
    | rollbackTransaction | release | newDate | randomUUID | getChannel | publish _ _
    | waitForConfirms _ | ack | nack _ | count _ => cases outcome <;> trivial
  · cases request <;> trivial

theorem carriedBy_append {settings : Settings} {envelopes : List Envelope}
    (grown : after.envelopes = state.envelopes ++ envelopes) {tag : Nat}
    (known : tag < state.envelopes.length) :
    after.carriedBy settings tag = state.carriedBy settings tag := by
  simp only [carriedBy,grown,List.getElem?_append_left known]

theorem lt_of_carriedBy {settings : Settings} {tag : Nat} {eventId : String}
    (carried : state.carriedBy settings tag = some eventId) : tag < state.envelopes.length := by
  obtain ⟨envelope,found,_⟩ := Option.bind_eq_some_iff.mp carried
  exact (List.getElem?_eq_some_iff.mp found).1

end State

structure Grows (before after : State) : Prop where
  delivered : after.delivered = before.delivered
  envelopes : ∃ added, after.envelopes = before.envelopes ++ added

theorem State.external_grows {state after : State} {event : External}
    (happened : state.external event = some after) : Grows state after ∧
      (after.transactions = state.transactions ∨ ∃ pid, Writes pid
        (fun transaction => { transaction with status := .rolledBack }) state after) := by
  cases event with
  | enqueue body headers =>
    simp only [external,Option.map_eq_some_iff] at happened
    obtain ⟨queues,_,rfl⟩ := happened
    exact ⟨⟨rfl,_,rfl⟩,.inl rfl⟩
  | route index =>
    simp only [external] at happened
    split at happened
    next published _ =>
      split at happened
      next =>
        split at happened
        next queues _ =>
          obtain rfl := Option.some.inj happened
          exact ⟨⟨rfl,_,rfl⟩,.inl rfl⟩
        next =>
          obtain rfl := Option.some.inj happened
          exact ⟨⟨rfl,[],(List.append_nil _).symm⟩,.inl rfl⟩
      next => cases happened
    next => cases happened
  | reject index =>
    simp only [external] at happened
    split at happened
    next published _ =>
      split at happened
      next =>
        obtain rfl := Option.some.inj happened
        exact ⟨⟨rfl,[],(List.append_nil _).symm⟩,.inl rfl⟩
      next => cases happened
    next => cases happened
  | requeue tag | expire tag | logDlq tag =>
    obtain rfl := Option.some.inj happened
    exact ⟨⟨rfl,[],(List.append_nil _).symm⟩,.inl rfl⟩
  | rejectUnmatched tag =>
    simp only [external,Option.ite_none_right_eq_some,Option.some.injEq] at happened
    obtain ⟨_,rfl⟩ := happened
    exact ⟨⟨rfl,[],(List.append_nil _).symm⟩,.inl rfl⟩
  | handleTestRabbit tag acked =>
    simp only [external,Option.ite_none_right_eq_some,Option.some.injEq] at happened
    obtain ⟨_,rfl⟩ := happened
    exact ⟨⟨rfl,[],(List.append_nil _).symm⟩,.inl rfl⟩
  | abort pid =>
    obtain rfl := Option.some.inj happened
    exact ⟨⟨rfl,[],(List.append_nil _).symm⟩,.inr ⟨pid,state.writes_modify pid _ _⟩⟩

namespace State

variable {settings : Settings} {state after : State} {pid tag : Nat} {program : Program Unit}

/-- What a delivery starts, and what it does to the state. -/
theorem deliver_program (started : state.deliver settings pid tag = some (program,after)) :
    (∃ envelope data, state.envelopes[tag]? = some envelope ∧
      dispatch envelope.body = some (.handleMessage,data) ∧
      program = MessagingController.handleMessage settings.engine settings.zod
        ⟨envelope.body,envelope.headers,data⟩) ∧
    after = { state.replace (readyIn Queues.work tag)
        (fun copy => [{ copy with unackedBy := some pid }]) with
      delivered := Function.update state.delivered pid (some tag) } := by
  simp only [deliver] at started
  split at started
  next envelope data found handler =>
    split at started
    next =>
      obtain ⟨rfl,rfl⟩ := Prod.mk.inj (Option.some.inj started)
      have dispatched : dispatch envelope.body = some (.handleMessage,data) := by
        simpa [handlerOf,found] using handler
      exact ⟨⟨envelope,data,found,dispatched,rfl⟩,rfl⟩
    next => cases started
  next => cases started

theorem carriedBy_found {envelope : Envelope} (found : state.envelopes[tag]? = some envelope) :
    state.carriedBy settings tag = eventIdOf settings envelope.body envelope.headers := by
  simp [carriedBy,found]

theorem deliver_eq (started : state.deliver settings pid tag = some (program,after)) :
    (∃ envelope, state.envelopes[tag]? = some envelope ∧ (discipline settings).Follows program
      (.start tag envelope.body (state.carriedBy settings tag)) (fun _ _ => True)) ∧
    after = { state.replace (readyIn Queues.work tag)
        (fun copy => [{ copy with unackedBy := some pid }]) with
      delivered := Function.update state.delivered pid (some tag) } := by
  obtain ⟨⟨envelope,data,found,dispatched,rfl⟩,shape⟩ := deliver_program started
  refine ⟨⟨envelope,found,?_⟩,shape⟩
  rw [carriedBy_found found]
  exact handleMessage_disciplined tag dispatched

end State

end MessagingPlatform.Consumer
