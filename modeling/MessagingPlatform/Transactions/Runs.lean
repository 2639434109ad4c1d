import MessagingPlatform.Transactions.Sessions

/-! Runs of the envelopes, step by step: what a run comes to when a given step of it fails. -/
namespace MessagingPlatform.Transactions
open Consumer (IdempotencyInput OutboxEventInput)
open Consumer.OutboxTransactionService (IdempotentRunResult)
open OutboxTransactionService

variable {M : Manager} {Value : Type}

def opening : Program M Thrown Unit := (request .connect).bind (fun _ => request .startTransaction)

theorem inTransaction_eq (body : Program M Thrown Value) : inTransaction body = opening.bind (fun _ =>
    Async.guarded body (request .rollbackTransaction) (request .release)) := by
  unfold inTransaction opening
  simp only [Async.bind_eq,Async.bind_assoc]

abbrev Backend (M : Manager) (State : Type) := State → (call : Call M) → Except Thrown (Reply M call) × State

section runs
variable {State : Type} (backend : Backend M State)

def Opens (start opened : State) : Prop := opening.evaluate backend start = (.ok (),opened)

theorem evaluate_inTransaction {body : Program M Thrown Value} {start opened : State}
    (opens : Opens backend start opened) : (inTransaction body).evaluate backend start =
      (Async.guarded body (request .rollbackTransaction) (request .release)).evaluate backend opened := by
  unfold Opens at opens
  rw [inTransaction_eq,Async.evaluate_bind,opens]

theorem evaluate_unopened {body : Program M Thrown Value} {start stopped : State} {error : Thrown}
    (fails : opening.evaluate backend start = (.error error,stopped)) :
    (inTransaction body).evaluate backend start = (.error error,stopped) := by
  rw [inTransaction_eq,Async.evaluate_bind,fails]

def rolledBack (failed : State) : Except Thrown Unit := (backend failed .rollbackTransaction).1

def released (failed : State) : Except Thrown Unit :=
  (backend (backend failed .rollbackTransaction).2 .release).1

def cleaned (failed : State) : State := (backend (backend failed .rollbackTransaction).2 .release).2

theorem evaluate_failed {body : Program M Thrown Value} {start opened failed : State} {error : Thrown}
    (opens : Opens backend start opened) (fails : body.evaluate backend opened = (.error error,failed)) :
    (inTransaction body).evaluate backend start =
      (.error (Async.escaped error (rolledBack backend failed) (released backend failed)),cleaned backend failed) := by
  rw [evaluate_inTransaction backend opens,Async.evaluate_guarded_error backend fails]
  simp only [request,Async.evaluate_call,rolledBack,released,cleaned]

end runs

section ledger
variable {State : Type} (backend : Backend M State) (idempotency : IdempotencyInput) (work : Work M Thrown Value)
  (events : List OutboxEventInput) {opened : State}

def Enters (opened inserted : State) : Prop := backend opened (.saveProcessedEvent idempotency) = (.ok (),inserted)

def Refused (opened : State) (error : Thrown) (refused : State) : Prop :=
  backend opened (.saveProcessedEvent idempotency) = (.error error,refused)

theorem insertLedgerRow_entered {inserted : State} (enters : Enters backend idempotency opened inserted) :
    (insertLedgerRow Consumer.isUniqueViolation idempotency).evaluate backend opened = (.ok true,inserted) := by
  unfold Enters at enters
  unfold insertLedgerRow
  rw [Async.evaluate_tryCatch,Async.evaluate_bind,request,Async.evaluate_call,enters]
  rfl

theorem insertLedgerRow_refused {error : Thrown} {refused : State}
    (refuses : Refused backend idempotency opened error refused) :
    (insertLedgerRow Consumer.isUniqueViolation idempotency).evaluate backend opened =
      (if Consumer.isUniqueViolation error then (request .rollbackTransaction).bind (fun _ => .resolve false)
        else .reject error : Program M Thrown Bool).evaluate backend refused := by
  unfold Refused at refuses
  unfold insertLedgerRow
  rw [Async.evaluate_tryCatch,Async.evaluate_bind,request,Async.evaluate_call,refuses]

theorem writeOnce_entered {inserted : State} (enters : Enters backend idempotency opened inserted) :
    (writeOnce Consumer.isUniqueViolation idempotency work events).evaluate backend opened =
      ((write work events).bind (fun result => .resolve (.processed result))).evaluate backend inserted := by
  unfold writeOnce
  simp only [Async.bind_eq,Async.pure_eq]
  rw [Async.evaluate_bind,insertLedgerRow_entered backend idempotency enters]
  rfl

theorem writeOnce_refused {error : Thrown} {refused : State}
    (refuses : Refused backend idempotency opened error refused) :
    (writeOnce Consumer.isUniqueViolation idempotency work events).evaluate backend opened =
      (if Consumer.isUniqueViolation error then
          (request .rollbackTransaction).bind (fun _ => .resolve .duplicate)
        else .reject error : Program M Thrown (IdempotentRunResult Value)).evaluate backend refused := by
  unfold writeOnce
  simp only [Async.bind_eq,Async.pure_eq]
  rw [Async.evaluate_bind,insertLedgerRow_refused backend idempotency refuses]
  by_cases violation : Consumer.isUniqueViolation error = true
  · rw [if_pos violation,if_pos violation,Async.evaluate_bind,Async.evaluate_bind,request,Async.evaluate_call]
    rcases backend refused .rollbackTransaction with ⟨outcome,after⟩
    cases outcome <;> rfl
  · rw [if_neg violation,if_neg violation]
    rfl

end ledger

def Call.writes : Call M → Bool
  | .statement _ | .newDate | .inject | .randomUUID | .saveOutboxEvent _ | .commitTransaction => true
  | _ => false

abbrev Writing {Value : Type} (program : Program M Thrown Value) : Prop :=
  program.Asks (fun call => call.writes = true)

theorem writing_request {call : Call M} (writes : call.writes = true) : Writing (request call) :=
  Async.Asks.call writes

theorem onManager_writing (work : Work M Thrown Value) : Writing work.onManager :=
  Async.Asks.translate work (fun _ => rfl)

theorem insertOutboxEvents_writing (events : List OutboxEventInput) :
    Writing (insertOutboxEvents events : Program M Thrown Unit) := by
  apply (writing_request rfl).bind
  intro now
  apply (writing_request rfl).bind
  intro traceContext
  apply Async.Asks.forM
  intro event member
  apply (writing_request rfl).bind
  intro eventId
  exact (writing_request rfl).bind (fun _ => trivial)

theorem write_writing (work : Work M Thrown Value) (events : List OutboxEventInput) : Writing (write work events) := by
  apply (onManager_writing work).bind
  intro result
  apply (insertOutboxEvents_writing events).bind
  intro inserted
  exact (writing_request rfl).bind (fun _ => trivial)

def Call.entersLedger : Call M → Bool
  | .saveProcessedEvent _ => true
  | _ => false

abbrev Unledgered {Value : Type} (program : Program M Thrown Value) : Prop :=
  program.Asks (fun call => call.entersLedger = false)

theorem unledgered_request {call : Call M} (other : call.entersLedger = false) :
    Unledgered (request call) := Async.Asks.call other

theorem Writing.unledgered {program : Program M Thrown Value} (writing : Writing program) : Unledgered program := by
  apply writing.mono
  intro call writes
  cases call <;> first | rfl | cases writes

theorem no_duplicates {environment : Environment M} {program : Program M Thrown Value}
    (unledgered : Unledgered program) {log : List (Event M)} (before : log.any Event.duplicates = false) :
    (program.evaluate environment.answer log).2.any Event.duplicates = false := by
  rw [List.any_eq_false] at before ⊢
  intro event member
  have asked : event ∈ log ∨ event.call.entersLedger = false :=
    unledgered.logged (fun _ _ => ⟨_,rfl,rfl⟩) member
  rcases asked with old | new
  · exact before event old
  · obtain ⟨call,outcome,effective,id⟩ := event
    cases call with
    | saveProcessedEvent row => cases new
    | _ => simp [Event.duplicates]

section independence
variable (environment : Environment M) (idempotency : IdempotencyInput) (work : Work M Thrown Value)
  (events : List OutboxEventInput)

/-- The callback was not invoked: the run is the same for any other callback and any other events. -/
def Uninvoked : Prop := ∀ (other : Work M Thrown Value) (others : List OutboxEventInput),
  environment.run (runIdempotentWithOutboxEvents Consumer.isUniqueViolation idempotency other others) =
    environment.run (runIdempotentWithOutboxEvents Consumer.isUniqueViolation idempotency work events)

variable {environment idempotency work events} {opened : List (Event M)}

theorem Refused.uninvoked {error : Thrown} {refused : List (Event M)} (opens : Opens environment.answer [] opened)
    (refuses : Refused environment.answer idempotency opened error refused) :
    Uninvoked environment idempotency work events := by
  intro other others
  unfold Environment.run runIdempotentWithOutboxEvents
  rw [evaluate_inTransaction environment.answer opens,evaluate_inTransaction environment.answer opens]
  apply Async.evaluate_guarded_congr
  rw [writeOnce_refused environment.answer idempotency other others refuses,
    writeOnce_refused environment.answer idempotency work events refuses]

theorem Opens.unduplicated (opens : Opens environment.answer [] opened) :
    opened.any Event.duplicates = false := by
  have unledgered : Unledgered (opening : Program M Thrown Unit) :=
    (unledgered_request rfl).bind (fun _ => unledgered_request rfl)
  have kept : ((opening : Program M Thrown Unit).evaluate environment.answer []).2.any Event.duplicates = false :=
    no_duplicates unledgered rfl
  rw [opens] at kept
  exact kept

theorem Enters.unduplicated {inserted : List (Event M)} (opens : Opens environment.answer [] opened)
    (enters : Enters environment.answer idempotency opened inserted) : inserted.any Event.duplicates = false := by
  have logged : inserted = opened ++ [_] := (congrArg Prod.snd enters).symm
  have resolved : (environment opened (.saveProcessedEvent idempotency)).1 = .ok () := congrArg Prod.fst enters
  rw [logged,List.any_append,opens.unduplicated]
  simp [Event.duplicates,resolved]

theorem Enters.run_unduplicated {inserted : List (Event M)} (opens : Opens environment.answer [] opened)
    (enters : Enters environment.answer idempotency opened inserted) :
    (environment.run (runIdempotentWithOutboxEvents Consumer.isUniqueViolation idempotency work events)).2.any
      Event.duplicates = false := by
  unfold Environment.run runIdempotentWithOutboxEvents
  rw [evaluate_inTransaction environment.answer opens,Async.evaluate_guarded_congr environment.answer
    (writeOnce_entered environment.answer idempotency work events enters)]
  apply no_duplicates
  · apply Async.Asks.guarded _ (unledgered_request rfl) (unledgered_request rfl)
    exact (write_writing work events).unledgered.bind (fun _ => trivial)
  · exact enters.unduplicated opens

variable (environment idempotency work events)

theorem uninvoked_or_entered : Uninvoked environment idempotency work events ∨
    (∃ opened inserted, Opens environment.answer [] opened ∧ Enters environment.answer idempotency opened inserted) ∧
      (environment.run (runIdempotentWithOutboxEvents Consumer.isUniqueViolation idempotency work events)).2.any
        Event.duplicates = false := by
  rcases begun : environment.run (opening : Program M Thrown Unit) with ⟨outcome,opened⟩
  cases outcome with
  | error error =>
    left
    intro other others
    exact (evaluate_unopened environment.answer begun).trans (evaluate_unopened environment.answer begun).symm
  | ok done =>
    have opens : Opens environment.answer [] opened := begun
    rcases inserting : environment.answer opened (.saveProcessedEvent idempotency) with ⟨outcome,inserted⟩
    cases outcome with
    | error error => exact .inl (Refused.uninvoked opens inserting)
    | ok saved =>
      have enters : Enters environment.answer idempotency opened inserted := inserting
      exact .inr ⟨⟨opened,inserted,opens,enters⟩,enters.run_unduplicated opens⟩

end independence

end MessagingPlatform.Transactions
