import MessagingPlatform.Transactions.Envelopes

/-! The database under a transaction. A call may reject after it took effect, except for the commit,
which either takes effect and resolves or rejects without effect; what a rollback undoes is lost. -/
namespace MessagingPlatform.Transactions
open Consumer (IdempotencyInput NewOutboxEvent OutboxEventInput)
open Gateway (GatewayOutboxEventInput gatewayRow)
open Outbox (OutboxEvent)

namespace Database
variable {Tables : Type}

def record (database : Database Tables) (rows : List IdempotencyInput) : Database Tables :=
  { database with processedEvents := database.processedEvents ++ rows }

def enqueue (database : Database Tables) (rows : List OutboxEvent) : Database Tables :=
  { database with outboxEvents := database.outboxEvents ++ rows }

theorem enqueue_append (database : Database Tables) (rows more : List OutboxEvent) :
    (database.enqueue rows).enqueue more = database.enqueue (rows ++ more) := by
  simp [enqueue]

end Database

def Manager.perform (M : Manager) (statements : List M.Statement) (database : Database M.Tables) :
    Database M.Tables :=
  statements.foldl (fun database statement => M.effect statement database) database

/-- A call, how its promise settled, whether it took effect when it rejected, and the id of its row. -/
structure Event (M : Manager) where
  call : Call M
  outcome : Except Thrown (Reply M call)
  effective : Bool
  id : Nat

namespace Event
variable {M : Manager}

def takesEffect : Event M → Bool
  | ⟨.commitTransaction,outcome,_,_⟩ => outcome.isOk
  | ⟨_,outcome,effective,_⟩ => outcome.isOk || effective

def duplicates : Event M → Bool
  | ⟨.saveProcessedEvent _,.error error,_,_⟩ => Consumer.isUniqueViolation error
  | _ => false

def uncleans : Event M → Bool
  | ⟨.rollbackTransaction,.error _,_,_⟩ | ⟨.release,.error _,_,_⟩ => true
  | _ => false

end Event

/-- Settles every call, knowing all that happened before. -/
abbrev Environment (M : Manager) :=
  List (Event M) → (call : Call M) → Except Thrown (Reply M call) × Bool × Nat

namespace Environment
variable {M : Manager} {Value : Type} (environment : Environment M)

def answer (log : List (Event M)) (call : Call M) : Except Thrown (Reply M call) × List (Event M) :=
  let settled := environment log call
  (settled.1,log ++ [⟨call,settled.1,settled.2.1,settled.2.2⟩])

def run (program : Program M Thrown Value) : Except Thrown Value × List (Event M) :=
  program.evaluate environment.answer []

end Environment

structure Session (M : Manager) where
  committed : Database M.Tables
  working : Option (Database M.Tables)
  /-- The statements of the callback that took effect. -/
  statements : List M.Statement
  duplicate : Bool
  unclean : Bool

namespace Session
variable {M : Manager}

def start (database : Database M.Tables) : Session M := ⟨database,none,[],false,false⟩

/-- Outside of a transaction a write takes effect at once. -/
def edit (session : Session M) (change : Database M.Tables → Database M.Tables) : Session M :=
  match session.working with
  | some working => { session with working := some (change working) }
  | none => { session with committed := change session.committed }

def apply (session : Session M) (id : Nat) : Call M → Session M
  | .startTransaction => { session with working := some session.committed }
  | .saveProcessedEvent row => session.edit (fun database => database.record [row])
  | .statement statement =>
      { session.edit (M.effect statement) with statements := session.statements ++ [statement] }
  | .saveOutboxEvent new => session.edit (fun database => database.enqueue [gatewayRow new id])
  | .commitTransaction =>
      { session with committed := session.working.getD session.committed, working := none }
  | .rollbackTransaction => { session with working := none }
  | .connect | .newDate | .inject | .randomUUID | .release => session

def note (session : Session M) (event : Event M) : Session M :=
  let seen := { session with
    duplicate := session.duplicate || event.duplicates
    unclean := session.unclean || event.uncleans }
  if event.takesEffect then seen.apply event.id event.call else seen

def of (database : Database M.Tables) (log : List (Event M)) : Session M := log.foldl note (start database)

theorem of_append (database : Database M.Tables) (log : List (Event M)) (event : Event M) :
    of database (log ++ [event]) = (of database log).note event := by
  simp [of]

theorem edit_seen (session : Session M) (change : Database M.Tables → Database M.Tables) :
    (session.edit change).duplicate = session.duplicate ∧ (session.edit change).unclean = session.unclean := by
  unfold edit
  cases session.working <;> exact ⟨rfl,rfl⟩

theorem apply_seen (session : Session M) (id : Nat) (call : Call M) :
    (session.apply id call).duplicate = session.duplicate ∧ (session.apply id call).unclean = session.unclean := by
  cases call with
  | saveProcessedEvent row => exact edit_seen session _
  | statement statement => exact edit_seen session _
  | saveOutboxEvent new => exact edit_seen session _
  | _ => exact ⟨rfl,rfl⟩

theorem note_seen (session : Session M) (event : Event M) :
    (session.note event).duplicate = (session.duplicate || event.duplicates) ∧
      (session.note event).unclean = (session.unclean || event.uncleans) := by
  unfold note
  dsimp only
  by_cases effective : event.takesEffect = true
  · rw [if_pos effective]
    exact apply_seen _ event.id event.call
  · rw [if_neg effective]
    exact ⟨rfl,rfl⟩

theorem note_of_plain {session : Session M} {event : Event M} (undoubled : event.duplicates = false)
    (clean : event.uncleans = false) :
    session.note event = if event.takesEffect then session.apply event.id event.call else session := by
  unfold note
  rw [undoubled,clean,Bool.or_false,Bool.or_false]

theorem note_resolved {session : Session M} {call : Call M} {reply : Reply M call} {effective : Bool} {id : Nat} :
    session.note ⟨call,.ok reply,effective,id⟩ = session.apply id call := by
  rw [note_of_plain (by cases call <;> rfl) (by cases call <;> rfl)]
  exact if_pos (by cases call <;> rfl)

theorem of_seen (database : Database M.Tables) (log : List (Event M)) :
    (of database log).duplicate = log.any Event.duplicates ∧ (of database log).unclean = log.any Event.uncleans := by
  induction log using List.reverseRecOn with
  | nil => exact ⟨rfl,rfl⟩
  | append_singleton earlier event ih =>
    obtain ⟨duplicate,unclean⟩ := note_seen (of database earlier) event
    rw [of_append,duplicate,unclean,ih.1,ih.2]
    simp

end Session

def transacting (M : Manager) : Protocol (Session M) Thrown (Call M) (Reply M) where
  allows _ _ := True
  moves before call outcome after := ∃ effective id, after = before.note ⟨call,outcome,effective,id⟩

section calls
variable {M : Manager} {session : Session M}

theorem transacting_call {call : Call M} {post : Session M → Except Thrown (Reply M call) → Prop}
    (answered : ∀ outcome effective id, post (session.note ⟨call,outcome,effective,id⟩) outcome) :
    (transacting M).Follows (request call) session post := by
  apply Protocol.Follows.call trivial
  intro outcome after moved
  obtain ⟨effective,id,rfl⟩ := moved
  exact answered outcome effective id

def Call.quiet : Call M → Bool
  | .connect | .newDate | .inject | .randomUUID => true
  | _ => false

theorem quiet_still {call : Call M} (quiet : call.quiet = true) :
    (transacting M).Still (request call) session := by
  apply transacting_call
  intro outcome effective id
  cases call with
  | connect | newDate | inject | randomUUID => exact (Session.note_of_plain rfl rfl).trans (ite_self _)
  | startTransaction | saveProcessedEvent _ | statement _ | saveOutboxEvent _ | commitTransaction
  | rollbackTransaction | release => cases quiet

/-- What an envelope does call by call, it does in every run. -/
theorem run_follows {Value : Type} {program : Program M Thrown Value} {database : Database M.Tables}
    {post : Session M → Except Thrown Value → Prop}
    (follows : (transacting M).Follows program (.start database) post) (environment : Environment M) :
    post (.of database (environment.run program).2) (environment.run program).1 := by
  have moved : ∀ log call, (transacting M).moves (.of database log) call (environment.answer log call).1
      (.of database (environment.answer log call).2) :=
    fun log call => ⟨(environment log call).2.1,(environment log call).2.2,Session.of_append database log _⟩
  have begins : (transacting M).Follows program (.of database []) post := follows
  exact begins.evaluate environment.answer (Session.of database) moved

end calls

end MessagingPlatform.Transactions
