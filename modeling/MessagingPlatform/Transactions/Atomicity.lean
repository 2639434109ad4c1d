import MessagingPlatform.Transactions.Runs

/-! The envelopes are atomic: whatever the callback does and whichever calls fail, either all writes of
a run are committed or none is. A duplicate is what the insert into the ledger itself finds. -/
namespace MessagingPlatform.Transactions
open Consumer (IdempotencyInput NewOutboxEvent OutboxEventInput)
open Consumer.OutboxTransactionService (IdempotentRunResult)
open Gateway (GatewayOutboxEventInput gatewayRow)
open Outbox (OutboxEvent)

variable {M : Manager} {Value : Type} {session : Session M} {working : Database M.Tables}

structure Pending (event : OutboxEventInput) (row : OutboxEvent) : Prop where
  eventType : row.eventType = event.eventType
  payload : row.payload = event.payload
  correlationId : row.correlationId = event.correlationId
  maxAttempts : row.maxAttempts = event.maxAttempts.getD 5
  status : row.status = .pending
  attempts : row.attempts = 0

namespace Session

def write (session : Session M) (statements : List M.Statement) (working : Database M.Tables) : Session M :=
  { session with working := some working, statements := session.statements ++ statements }

theorem write_write (first second : List M.Statement) (earlier later : Database M.Tables) :
    (session.write first earlier).write second later = session.write (first ++ second) later := by
  simp [write]

theorem write_nil (opened : session.working = some working) : session.write [] working = session := by
  obtain ⟨committed,current,statements,duplicate,unclean⟩ := session
  obtain rfl : current = some working := opened
  simp [write]

@[simp] theorem write_working (statements : List M.Statement) :
    (session.write statements working).working = some working := rfl

end Session

theorem note_statement (opened : session.working = some working) (statement : M.Statement)
    (outcome : Except Thrown (M.Answer statement)) (effective : Bool) (id : Nat) :
    session.note ⟨.statement statement,outcome,effective,id⟩ = session ∨
      session.note ⟨.statement statement,outcome,effective,id⟩ =
        session.write [statement] (M.effect statement working) := by
  rw [Session.note_of_plain rfl rfl]
  split
  · right
    simp [Session.apply,Session.edit,opened,Session.write]
  · left
    rfl

theorem onManager_transacting (work : Work M Thrown Value) (opened : session.working = some working) :
    (transacting M).Follows work.onManager session (fun after _ =>
      ∃ statements, after = session.write statements (M.perform statements working)) := by
  induction work generalizing session working with
  | resolve value => exact ⟨[],(Session.write_nil opened).symm⟩
  | reject error => exact ⟨[],(Session.write_nil opened).symm⟩
  | await statement next ih =>
    refine ⟨trivial,?_⟩
    intro outcome after moved
    obtain ⟨effective,id,rfl⟩ := moved
    rcases note_statement opened statement outcome effective id with same | wrote
    · rw [same]
      exact ih _ opened
    · rw [wrote]
      apply (ih _ (Session.write_working [statement])).mono
      intro last result written
      obtain ⟨statements,rfl⟩ := written
      exact ⟨statement :: statements,Session.write_write _ _ _ _⟩

def Rows {Result : Type} (described : List OutboxEvent → Prop) (session : Session M) (working : Database M.Tables)
    (after : Session M) : Except Thrown Result → Prop
  | .ok _ => ∃ rows, described rows ∧ after = session.write [] (working.enqueue rows)
  | .error _ => ∃ other, after = session.write [] other

theorem saveOutboxEvent_transacting (new : NewOutboxEvent) (opened : session.working = some working) :
    (transacting M).Follows (request (.saveOutboxEvent new)) session
      (Rows (fun rows => ∃ id, rows = [gatewayRow new id]) session working) := by
  apply transacting_call
  intro outcome effective id
  rw [Session.note_of_plain rfl rfl]
  split
  next took =>
    have wrote : session.apply id (.saveOutboxEvent new) = session.write [] (working.enqueue [gatewayRow new id]) := by
      simp [Session.apply,Session.edit,opened,Session.write]
    rw [wrote]
    cases outcome with
    | ok saved => exact ⟨[gatewayRow new id],⟨id,rfl⟩,rfl⟩
    | error error => exact ⟨_,rfl⟩
  next kept =>
    cases outcome with
    | ok saved => exact absurd rfl kept
    | error error => exact ⟨working,(Session.write_nil opened).symm⟩

theorem insertOutboxEvent_transacting (now : Int) (traceContext : TraceCarrier) (event : OutboxEventInput)
    (opened : session.working = some working) :
    (transacting M).Follows (OutboxTransactionService.insertOutboxEvent now traceContext event) session
      (Rows (fun rows => ∃ row, rows = [row] ∧ Pending event row) session working) := by
  unfold OutboxTransactionService.insertOutboxEvent
  simp only [Async.bind_eq,Async.pure_eq]
  apply (quiet_still rfl).before
  · intro eventId
    apply (saveOutboxEvent_transacting _ opened).bind
    · intro after saved inserted
      obtain ⟨rows,⟨id,rfl⟩,written⟩ := inserted
      exact ⟨_,⟨_,rfl,⟨rfl,rfl,rfl,rfl,rfl,rfl⟩⟩,written⟩
    · intro after error failed
      exact failed
  · intro error
    exact ⟨working,(Session.write_nil opened).symm⟩

theorem insertRows_transacting (now : Int) (traceContext : TraceCarrier) (events : List OutboxEventInput)
    (opened : session.working = some working) :
    (transacting M).Follows (events.forM (OutboxTransactionService.insertOutboxEvent now traceContext)) session
      (Rows (List.Forall₂ Pending events) session working) := by
  induction events generalizing session working with
  | nil =>
    refine ⟨[],.nil,?_⟩
    simp [Database.enqueue,Session.write_nil opened]
  | cons event rest ih =>
    apply (insertOutboxEvent_transacting now traceContext event opened).bind
    · intro after done inserted
      obtain ⟨rows,⟨row,rfl,pending⟩,rfl⟩ := inserted
      apply (ih (Session.write_working [])).mono
      intro last outcome ended
      cases outcome with
      | ok finished =>
        obtain ⟨rows,described,rfl⟩ := ended
        refine ⟨row :: rows,.cons pending described,?_⟩
        rw [Session.write_write,Database.enqueue_append]
        rfl
      | error error =>
        obtain ⟨other,rfl⟩ := ended
        exact ⟨other,Session.write_write _ _ _ _⟩
    · intro after error failed
      exact failed

theorem insertOutboxEvents_transacting (events : List OutboxEventInput) (opened : session.working = some working) :
    (transacting M).Follows (OutboxTransactionService.insertOutboxEvents events) session
      (Rows (List.Forall₂ Pending events) session working) := by
  unfold OutboxTransactionService.insertOutboxEvents
  simp only [Async.bind_eq]
  have open_failed : ∀ error, Rows (List.Forall₂ Pending events) session working session
      (.error error : Except Thrown Unit) := fun _ => ⟨working,(Session.write_nil opened).symm⟩
  apply (quiet_still rfl).before _ open_failed
  intro now
  apply (quiet_still rfl).before _ open_failed
  intro traceContext
  exact insertRows_transacting now traceContext events opened

def PendingRecord (event : GatewayOutboxEventInput) (row : OutboxEvent) : Prop :=
  Pending ⟨event.eventType,event.payload,event.correlationId,event.maxAttempts⟩ row ∧
    ∀ eventId, event.eventId = some eventId → row.eventId = some eventId

theorem insertOutboxEvent_recording (event : GatewayOutboxEventInput) (opened : session.working = some working) :
    (transacting M).Follows (GatewayOutboxTransactionService.insertOutboxEvent event) session
      (Rows (fun rows => ∃ row, rows = [row] ∧ PendingRecord event row) session working) := by
  unfold GatewayOutboxTransactionService.insertOutboxEvent
  simp only [Async.bind_eq]
  have open_failed : ∀ error, Rows (fun rows => ∃ row, rows = [row] ∧ PendingRecord event row) session working
      session (.error error : Except Thrown M.Saved) := fun _ => ⟨working,(Session.write_nil opened).symm⟩
  apply (quiet_still rfl).before _ open_failed
  intro now
  apply (quiet_still rfl).before _ open_failed
  intro traceContext
  have saved : ∀ eventId, (∀ given, event.eventId = some given → eventId = given) →
      (transacting M).Follows (request (.saveOutboxEvent
        (Gateway.GatewayOutboxTransactionService.newOutboxEvent event eventId now traceContext))) session
        (Rows (fun rows => ∃ row, rows = [row] ∧ PendingRecord event row) session working) := by
    intro eventId own
    apply (saveOutboxEvent_transacting _ opened).mono
    intro after outcome ended
    cases outcome with
    | error error => exact ended
    | ok row =>
      obtain ⟨rows,⟨id,rfl⟩,written⟩ := ended
      refine ⟨_,⟨_,rfl,⟨rfl,rfl,rfl,rfl,rfl,rfl⟩,?_⟩,written⟩
      intro given same
      change some (event.eventId.getD eventId) = some given
      rw [same]
      rfl
  cases given : event.eventId with
  | some eventId =>
    apply saved eventId
    intro other same
    rw [given] at same
    exact Option.some.inj same
  | none =>
    apply (quiet_still rfl).before _ open_failed
    intro eventId
    apply saved eventId
    intro other same
    rw [given] at same
    cases same

def Wrote {Result : Type} (described : List OutboxEvent → Prop) (session : Session M) (working : Database M.Tables)
    (after : Session M) : Except Thrown Result → Prop
  | .ok _ => ∃ statements rows, described rows ∧ after = { session with
      committed := (M.perform statements working).enqueue rows
      working := none
      statements := session.statements ++ statements }
  | .error _ => ∃ statements other, after = session.write statements other

theorem body_transacting {Inserted Result : Type} {described : List OutboxEvent → Prop} (work : Work M Thrown Value)
    {inserts : Program M Thrown Inserted} (result : Value → Inserted → Result)
    (inserting : ∀ (session : Session M) working, session.working = some working →
      (transacting M).Follows inserts session (Rows described session working))
    (opened : session.working = some working) :
    (transacting M).Follows (work.onManager.bind (fun value => inserts.bind (fun inserted =>
      (request .commitTransaction).bind (fun _ => .resolve (result value inserted))))) session
      (Wrote described session working) := by
  apply (onManager_transacting work opened).bind
  · intro after value wrote
    obtain ⟨statements,rfl⟩ := wrote
    apply (inserting _ _ (Session.write_working statements)).bind
    · intro last inserted written
      obtain ⟨rows,pending,rfl⟩ := written
      rw [Session.write_write,List.append_nil]
      apply Protocol.Follows.bind (M := fun final ended => match ended with
        | .ok _ => final = { session with
            committed := (M.perform statements working).enqueue rows
            working := none
            statements := session.statements ++ statements }
        | .error _ => final = session.write statements ((M.perform statements working).enqueue rows))
      · apply transacting_call
        intro outcome effective id
        cases outcome with
        | ok done => exact Session.note_resolved
        | error error => exact (Session.note_of_plain rfl rfl).trans (if_neg Bool.false_ne_true)
      · intro final done committed
        exact ⟨statements,rows,pending,committed⟩
      · intro final error failed
        exact ⟨statements,_,failed⟩
    · intro last error failed
      obtain ⟨other,rfl⟩ := failed
      exact ⟨_,other,Session.write_write _ _ _ _⟩
  · intro after error failed
    obtain ⟨statements,rfl⟩ := failed
    exact ⟨statements,_,rfl⟩

def Complete (initial : Database M.Tables) (ledger : List IdempotencyInput) (described : List OutboxEvent → Prop)
    (session : Session M) : Prop :=
  ∃ rows, described rows ∧ session.committed = (M.perform session.statements (initial.record ledger)).enqueue rows

/-- How a run of an envelope ends: with all of its writes, as it must when it resolves, or with none. -/
def Atomic {Result : Type} (initial : Database M.Tables) (ledger : List IdempotencyInput)
    (described : List OutboxEvent → Prop) (session : Session M) : Except Thrown Result → Prop
  | .ok _ => Complete initial ledger described session
  | .error _ => session.committed = initial ∨ Complete initial ledger described session

structure Cleaned (session after : Session M) (resolved : Bool) : Prop where
  committed : after.committed = session.committed
  statements : after.statements = session.statements
  duplicate : after.duplicate = session.duplicate
  unclean : after.unclean = (session.unclean || !resolved)

theorem cleanup_transacting {call : Call M} (cleans : call = .rollbackTransaction ∨ call = .release) :
    (transacting M).Follows (request call) session (fun after outcome => Cleaned session after outcome.isOk) := by
  apply transacting_call
  intro outcome effective id
  obtain ⟨duplicate,unclean⟩ := session.note_seen ⟨call,outcome,effective,id⟩
  have kept : (session.note ⟨call,outcome,effective,id⟩).committed = session.committed ∧
      (session.note ⟨call,outcome,effective,id⟩).statements = session.statements := by
    unfold Session.note
    rcases cleans with rfl | rfl <;> split <;> exact ⟨rfl,rfl⟩
  refine ⟨kept.1,kept.2,?_,?_⟩
  · rw [duplicate]
    rcases cleans with rfl | rfl <;> simp [Event.duplicates]
  · rw [unclean]
    rcases cleans with rfl | rfl <;> cases outcome <;> rfl

def Session.opened (initial : Database M.Tables) : Session M := ⟨initial,some initial,[],false,false⟩

theorem startTransaction_transacting (initial : Database M.Tables) :
    (transacting M).Follows (request .startTransaction) (Session.start initial) (fun after outcome =>
      (outcome.isOk = true → after = .opened initial) ∧
        after.committed = initial ∧ after.duplicate = false) := by
  apply transacting_call
  intro outcome effective id
  rw [Session.note_of_plain rfl rfl]
  split
  next took => exact ⟨fun _ => rfl,rfl,rfl⟩
  next kept =>
    refine ⟨?_,rfl,rfl⟩
    intro resolved
    exact absurd (Bool.or_eq_true_iff.mpr (.inl resolved)) kept

/-- What holds of a body, and is kept by its cleanup, holds of its envelope. -/
theorem inTransaction_transacting {Result : Type} {body : Program M Thrown Result}
    {N : Session M → Except Thrown Result → Prop} {initial : Database M.Tables}
    (unopened : ∀ (after : Session M) error, after.committed = initial → after.duplicate = false →
      N after (.error error))
    (tried : (transacting M).Follows body (.opened initial) N)
    (settled : ∀ (session after : Session M) outcome, Cleaned session after true → N session outcome →
      N after outcome)
    (disturbed : ∀ (session after : Session M) outcome error, Cleaned session after false → N session outcome →
      N after (.error error)) :
    (transacting M).Follows (inTransaction body) (.start initial) N := by
  unfold inTransaction
  simp only [Async.bind_eq]
  apply (quiet_still rfl).before
  · intro connected
    apply (startTransaction_transacting initial).bind
    · intro after started known
      obtain rfl := known.1 rfl
      apply Protocol.Follows.guarded tried (fun _ _ holds => holds)
      · intro session error holds
        apply (cleanup_transacting (.inl rfl)).mono
        intro last ended cleaned
        cases ended with
        | ok done => exact settled session last _ cleaned holds
        | error later => exact disturbed session last _ later cleaned holds
      · intro session outcome holds
        apply (cleanup_transacting (.inr rfl)).mono
        intro last ended cleaned
        cases ended with
        | ok done => exact settled session last outcome cleaned holds
        | error later => exact disturbed session last outcome later cleaned holds
    · intro after error known
      exact unopened after error known.2.1 known.2.2
  · intro error
    exact unopened _ error rfl rfl

section plain
variable {initial : Database M.Tables} {described : List OutboxEvent → Prop} {Result : Type}

theorem Complete.cleaned {ledger : List IdempotencyInput} {session after : Session M} {resolved : Bool}
    (complete : Complete initial ledger described session) (cleaned : Cleaned session after resolved) :
    Complete initial ledger described after := by
  obtain ⟨rows,pending,committed⟩ := complete
  refine ⟨rows,pending,?_⟩
  rw [cleaned.committed,cleaned.statements]
  exact committed

theorem Atomic.disturbed {ledger : List IdempotencyInput} {session after : Session M} {resolved : Bool}
    {outcome : Except Thrown Result} (atomic : Atomic initial ledger described session outcome)
    (cleaned : Cleaned session after resolved) (error : Thrown) :
    Atomic initial ledger described after (.error error : Except Thrown Result) := by
  cases outcome with
  | ok value => exact .inr (Complete.cleaned atomic cleaned)
  | error earlier =>
    rcases atomic with unchanged | complete
    · exact .inl (cleaned.committed.trans unchanged)
    · exact .inr (complete.cleaned cleaned)

theorem Atomic.settled {ledger : List IdempotencyInput} {session after : Session M} {resolved : Bool}
    {outcome : Except Thrown Result} (atomic : Atomic initial ledger described session outcome)
    (cleaned : Cleaned session after resolved) : Atomic initial ledger described after outcome := by
  cases outcome with
  | ok value => exact Complete.cleaned atomic cleaned
  | error error => exact atomic.disturbed cleaned error

theorem Wrote.atomic {after : Session M} {outcome : Except Thrown Result}
    (wrote : Wrote described (.opened initial) initial after outcome) : Atomic initial [] described after outcome := by
  cases outcome with
  | ok value =>
    obtain ⟨statements,rows,pending,rfl⟩ := wrote
    refine ⟨rows,pending,?_⟩
    simp [Session.opened,Database.record]
  | error error =>
    obtain ⟨statements,other,rfl⟩ := wrote
    exact .inl rfl

theorem inTransaction_atomic {body : Program M Thrown Result}
    (tried : (transacting M).Follows body (.opened initial) (Wrote described (.opened initial) initial)) :
    (transacting M).Follows (inTransaction body) (.start initial) (Atomic initial [] described) := by
  apply inTransaction_transacting
  · intro after error unchanged _
    exact .inl unchanged
  · exact tried.mono (fun _ _ wrote => wrote.atomic)
  · intro session after outcome cleaned atomic
    exact atomic.settled cleaned
  · intro session after outcome error cleaned atomic
    exact atomic.disturbed cleaned error

end plain

theorem runWithOutboxEvents_atomic (initial : Database M.Tables) (work : Work M Thrown Value)
    (events : List OutboxEventInput) :
    (transacting M).Follows (OutboxTransactionService.runWithOutboxEvents work events) (.start initial)
      (Atomic initial [] (List.Forall₂ Pending events)) :=
  inTransaction_atomic (body_transacting work (fun value _ => value)
    (fun _ _ opened => insertOutboxEvents_transacting events opened) rfl)

theorem runWithOutboxEvent_atomic (initial : Database M.Tables) (work : Work M Thrown Value)
    (event : GatewayOutboxEventInput) :
    (transacting M).Follows (GatewayOutboxTransactionService.runWithOutboxEvent work event) (.start initial)
      (Atomic initial [] (fun rows => ∃ row, rows = [row] ∧ PendingRecord event row)) :=
  inTransaction_atomic (body_transacting work (fun _ row => row)
    (fun _ _ opened => insertOutboxEvent_recording event opened) rfl)

/-- How the envelope with a ledger ends. A duplicate leaves the database alone, and it is not told as
one only when a cleanup failed. -/
def Once (initial : Database M.Tables) (idempotency : IdempotencyInput) (described : List OutboxEvent → Prop)
    (session : Session M) : Except Thrown (IdempotentRunResult Value) → Prop
  | .ok .duplicate => session.committed = initial ∧ session.duplicate = true ∧ session.unclean = false
  | .ok (.processed _) => Complete initial [idempotency] described session ∧ session.duplicate = false
  | .error _ => (session.committed = initial ∨ Complete initial [idempotency] described session) ∧
      (session.duplicate = true → session.committed = initial ∧ session.unclean = true)

section once
variable {initial : Database M.Tables} {idempotency : IdempotencyInput} {described : List OutboxEvent → Prop}
  {after : Session M} {outcome : Except Thrown (IdempotentRunResult Value)}

theorem Once.settled (once : Once initial idempotency described session outcome)
    (cleaned : Cleaned session after true) : Once initial idempotency described after outcome := by
  cases outcome with
  | ok result =>
    cases result with
    | duplicate =>
      refine ⟨cleaned.committed.trans once.1,cleaned.duplicate.trans once.2.1,?_⟩
      rw [cleaned.unclean,once.2.2]
      rfl
    | processed value => exact ⟨once.1.cleaned cleaned,cleaned.duplicate.trans once.2⟩
  | error error =>
    obtain ⟨atomic,told⟩ := once
    refine ⟨atomic.imp (fun unchanged => cleaned.committed.trans unchanged) (fun complete => complete.cleaned cleaned),?_⟩
    intro seen
    obtain ⟨unchanged,unclean⟩ := told (cleaned.duplicate.symm.trans seen)
    refine ⟨cleaned.committed.trans unchanged,?_⟩
    rw [cleaned.unclean,unclean]
    rfl

theorem Once.disturbed (once : Once initial idempotency described session outcome)
    (cleaned : Cleaned session after false) (error : Thrown) :
    Once initial idempotency described after (.error error : Except Thrown (IdempotentRunResult Value)) := by
  have unclean : after.unclean = true := by
    rw [cleaned.unclean]
    simp
  cases outcome with
  | ok result =>
    cases result with
    | duplicate =>
      have unchanged := cleaned.committed.trans once.1
      exact ⟨.inl unchanged,fun _ => ⟨unchanged,unclean⟩⟩
    | processed value =>
      have unseen := cleaned.duplicate.trans once.2
      exact ⟨.inr (once.1.cleaned cleaned),fun seen => by cases unseen.symm.trans seen⟩
  | error earlier =>
    obtain ⟨atomic,told⟩ := once
    refine ⟨atomic.imp (fun unchanged => cleaned.committed.trans unchanged) (fun complete => complete.cleaned cleaned),?_⟩
    intro seen
    exact ⟨cleaned.committed.trans (told (cleaned.duplicate.symm.trans seen)).1,unclean⟩

end once

/-- How the row of the ledger is saved, on the transaction that was opened for it. -/
def SavesRow {Result : Type} (initial : Database M.Tables) (idempotency : IdempotencyInput) (session : Session M) :
    Except Thrown Result → Prop
  | .ok _ => session = { Session.opened initial with working := some (initial.record [idempotency]) }
  | .error error => session.committed = initial ∧ session.duplicate = Consumer.isUniqueViolation error ∧
      session.unclean = false

theorem saveProcessedEvent_transacting (initial : Database M.Tables) (idempotency : IdempotencyInput) :
    (transacting M).Follows (request (.saveProcessedEvent idempotency)) (.opened initial)
      (SavesRow initial idempotency) := by
  apply transacting_call
  intro outcome effective id
  cases outcome with
  | ok saved => exact Session.note_resolved
  | error error =>
    obtain ⟨duplicate,unclean⟩ := (Session.opened initial).note_seen ⟨.saveProcessedEvent idempotency,.error error,
      effective,id⟩
    refine ⟨?_,duplicate,unclean⟩
    unfold Session.note
    split <;> rfl

def Entered (initial : Database M.Tables) (idempotency : IdempotencyInput) (session : Session M) :
    Except Thrown Bool → Prop
  | .ok true => session = { Session.opened initial with working := some (initial.record [idempotency]) }
  | .ok false => session.committed = initial ∧ session.duplicate = true ∧ session.unclean = false
  | .error _ => session.committed = initial ∧ (session.duplicate = true → session.unclean = true)

theorem insertLedgerRow_transacting (initial : Database M.Tables) (idempotency : IdempotencyInput) :
    (transacting M).Follows (OutboxTransactionService.insertLedgerRow Consumer.isUniqueViolation idempotency)
      (.opened initial) (Entered initial idempotency) := by
  unfold OutboxTransactionService.insertLedgerRow
  apply Protocol.Follows.tryCatch (M := fun after outcome => SavesRow initial idempotency after outcome ∧
    ∀ inserted, outcome = .ok inserted → inserted = true)
  · apply (saveProcessedEvent_transacting initial idempotency).bind
    · intro after saved known
      exact ⟨known,fun _ same => (Except.ok.inj same).symm⟩
    · intro after error known
      exact ⟨known,fun _ impossible => by cases impossible⟩
  · intro after inserted known
    obtain ⟨saved,resolved⟩ := known
    obtain rfl := resolved inserted rfl
    exact saved
  · intro after error known
    obtain ⟨⟨unchanged,duplicate,clean⟩,_⟩ := known
    by_cases violation : Consumer.isUniqueViolation error = true
    · rw [if_pos violation]
      apply (cleanup_transacting (.inl rfl)).bind
      · intro last done cleaned
        refine ⟨cleaned.committed.trans unchanged,cleaned.duplicate.trans (duplicate.trans violation),?_⟩
        rw [cleaned.unclean,clean]
        rfl
      · intro last later cleaned
        refine ⟨cleaned.committed.trans unchanged,?_⟩
        intro _
        simpa [Except.isOk,Except.toBool] using cleaned.unclean
    · rw [if_neg violation]
      refine ⟨unchanged,?_⟩
      intro seen
      exact absurd (duplicate.symm.trans seen) violation

theorem runIdempotentWithOutboxEvents_once (initial : Database M.Tables) (idempotency : IdempotencyInput)
    (work : Work M Thrown Value) (events : List OutboxEventInput) :
    (transacting M).Follows (OutboxTransactionService.runIdempotentWithOutboxEvents Consumer.isUniqueViolation
      idempotency work events) (.start initial) (Once initial idempotency (List.Forall₂ Pending events)) := by
  apply inTransaction_transacting
  · intro after error unchanged unseen
    exact ⟨.inl unchanged,fun seen => by cases unseen.symm.trans seen⟩
  · unfold OutboxTransactionService.writeOnce
    simp only [Async.bind_eq,Async.pure_eq]
    apply (insertLedgerRow_transacting initial idempotency).bind
    · intro after inserted entered
      cases inserted with
      | false => exact entered
      | true =>
        have here : after = { Session.opened initial with working := some (initial.record [idempotency]) } := entered
        subst here
        have wrote := body_transacting work (fun value (_ : Unit) => value)
          (fun _ _ opened => insertOutboxEvents_transacting events opened)
          (Eq.refl (Session.working { Session.opened initial with working := some (initial.record [idempotency]) }))
        apply Protocol.Follows.bind wrote
        · intro last value wrote
          obtain ⟨statements,rows,pending,rfl⟩ := wrote
          exact ⟨⟨rows,pending,by simp [Session.opened]⟩,rfl⟩
        · intro last error wrote
          obtain ⟨statements,other,rfl⟩ := wrote
          exact ⟨.inl rfl,fun seen => by cases seen⟩
    · intro after error failed
      exact ⟨.inl failed.1,fun seen => ⟨failed.1,failed.2 seen⟩⟩
  · intro session after outcome cleaned once
    exact once.settled cleaned
  · intro session after outcome error cleaned once
    exact once.disturbed cleaned error

section ended
variable {initial : Database M.Tables} {idempotency : IdempotencyInput} {described : List OutboxEvent → Prop}
  {outcome : Except Thrown (IdempotentRunResult Value)}

theorem Once.duplicate_iff (once : Once initial idempotency described session outcome) :
    outcome = .ok .duplicate ↔ session.duplicate = true ∧ session.unclean = false := by
  constructor
  · intro told
    rw [told] at once
    exact once.2
  · intro seen
    cases outcome with
    | error error => cases seen.2.symm.trans (once.2 seen.1).2
    | ok result =>
      cases result with
      | duplicate => rfl
      | processed value => cases seen.1.symm.trans once.2

theorem Once.unchanged (once : Once initial idempotency described session outcome)
    (seen : session.duplicate = true) : session.committed = initial := by
  cases outcome with
  | error error => exact (once.2 seen).1
  | ok result =>
    cases result with
    | duplicate => exact once.1
    | processed value => cases seen.symm.trans once.2

theorem Once.atomic (once : Once initial idempotency described session outcome) :
    session.committed = initial ∨ Complete initial [idempotency] described session := by
  cases outcome with
  | error error => exact once.1
  | ok result =>
    cases result with
    | duplicate => exact .inl once.1
    | processed value => exact .inr once.1

end ended

/-- Whatever the callback does and whichever calls fail, a run of an envelope commits all of its writes
or none, and all when it resolves to a result. The one with a ledger tells a duplicate if and only if its
own insert raised a unique violation and the clean-up resolved; then the callback is not invoked and
nothing changes. Once the insert has resolved, every failure rejects. -/
theorem envelopes_atomic (M : Manager) (Value : Type) (environment : Environment M) (initial : Database M.Tables)
    (work : Work M Thrown Value) (events : List OutboxEventInput) (idempotency : IdempotencyInput)
    (event : GatewayOutboxEventInput) :
    let plain := environment.run (OutboxTransactionService.runWithOutboxEvents work events)
    let recorded := environment.run (GatewayOutboxTransactionService.runWithOutboxEvent work event)
    let once := environment.run (OutboxTransactionService.runIdempotentWithOutboxEvents Consumer.isUniqueViolation
      idempotency work events)
    let session := Session.of initial once.2
    Atomic initial [] (List.Forall₂ Pending events) (.of initial plain.2) plain.1 ∧
    Atomic initial [] (fun rows => ∃ row, rows = [row] ∧ PendingRecord event row) (.of initial recorded.2)
      recorded.1 ∧
    (session.committed = initial ∨ Complete initial [idempotency] (List.Forall₂ Pending events) session) ∧
    (∀ value, once.1 = .ok (.processed value) →
      Complete initial [idempotency] (List.Forall₂ Pending events) session) ∧
    (once.1 = .ok .duplicate ↔
      once.2.any Event.duplicates = true ∧ once.2.any Event.uncleans = false) ∧
    (once.2.any Event.duplicates = true → session.committed = initial ∧
      Uninvoked environment idempotency work events) ∧
    (∀ opened inserted error failed, Opens environment.answer [] opened →
      Enters environment.answer idempotency opened inserted →
      (OutboxTransactionService.write work events).evaluate environment.answer inserted = (.error error,failed) →
      ∃ last, once.1 = .error last) := by
  intro plain recorded once session
  have ended : Once initial idempotency (List.Forall₂ Pending events) session once.1 :=
    run_follows (runIdempotentWithOutboxEvents_once initial idempotency work events) environment
  obtain ⟨duplicate,unclean⟩ := Session.of_seen initial once.2
  refine ⟨run_follows (runWithOutboxEvents_atomic initial work events) environment,
    run_follows (runWithOutboxEvent_atomic initial work event) environment,ended.atomic,?_,?_,?_,?_⟩
  · intro value processed
    rw [processed] at ended
    exact ended.1
  · rw [← duplicate,← unclean]
    exact ended.duplicate_iff
  · intro raised
    refine ⟨ended.unchanged (duplicate.trans raised),?_⟩
    rcases uninvoked_or_entered environment idempotency work events with uninvoked | entered
    · exact uninvoked
    · cases raised.symm.trans entered.2
  · intro opened inserted error failed opens enters fails
    have body : (OutboxTransactionService.writeOnce Consumer.isUniqueViolation idempotency work events).evaluate
        environment.answer opened = (.error error,failed) := by
      rw [writeOnce_entered environment.answer idempotency work events enters,Async.evaluate_bind,fails]
    exact ⟨_,congrArg Prod.fst (evaluate_failed environment.answer opens body)⟩

end MessagingPlatform.Transactions
