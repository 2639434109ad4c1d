import MessagingPlatform.Transactions.Runs

/-! The pool connection of a query runner. `connect` takes it in front of the block whose `finally`
hands it back, so an envelope keeps it exactly if its transaction does not start. -/
namespace MessagingPlatform.Transactions
open Consumer (IdempotencyInput OutboxEventInput)
open Consumer.OutboxTransactionService (IdempotentRunResult)
open Gateway (GatewayOutboxEventInput)

variable {M : Manager} {Value : Type}

structure QueryRunner where
  connected : Bool
  releases : Nat
  checkedOut : Bool
deriving DecidableEq

namespace QueryRunner

def created : QueryRunner := ⟨false,0,false⟩

def note (runner : QueryRunner) (event : Event M) : QueryRunner :=
  match event.call with
  | .connect => if event.takesEffect then { runner with connected := true, checkedOut := true } else runner
  | .release => { runner with releases := runner.releases + 1, checkedOut := false }
  | _ => runner

def of (log : List (Event M)) : QueryRunner := log.foldl note created

theorem of_append (log : List (Event M)) (event : Event M) : of (log ++ [event]) = (of log).note event := by
  simp [of]

/-- Every runner that has connected is released, and only once. -/
def Released (runner : QueryRunner) : Prop := runner.connected = true → runner.releases = 1

end QueryRunner

def Call.pooled : Call M → Bool
  | .connect | .release => true
  | _ => false

abbrev Unpooled (program : Program M Thrown Value) : Prop := program.Asks (fun call => call.pooled = false)

theorem unpooled_request {call : Call M} (other : call.pooled = false) : Unpooled (request call) :=
  Async.Asks.call other

theorem Writing.unpooled {program : Program M Thrown Value} (writing : Writing program) : Unpooled program := by
  apply writing.mono
  intro call writes
  cases call <;> first | rfl | cases writes

namespace OutboxTransactionService

theorem insertLedgerRow_unpooled (isUniqueViolation : Thrown → Bool) (idempotency : IdempotencyInput) :
    Unpooled (insertLedgerRow isUniqueViolation idempotency : Program M Thrown Bool) := by
  apply Async.Asks.tryCatch
  · exact (unpooled_request rfl).bind (fun _ => trivial)
  · intro error
    by_cases violation : isUniqueViolation error = true
    · rw [if_pos violation]
      exact (unpooled_request rfl).bind (fun _ => trivial)
    · rw [if_neg violation]
      trivial

theorem writeOnce_unpooled (isUniqueViolation : Thrown → Bool) (idempotency : IdempotencyInput)
    (work : Work M Thrown Value) (events : List OutboxEventInput) :
    Unpooled (writeOnce isUniqueViolation idempotency work events) := by
  apply (insertLedgerRow_unpooled isUniqueViolation idempotency).bind
  intro inserted
  cases inserted with
  | false => trivial
  | true => exact (write_writing work events).unpooled.bind (fun _ => trivial)

end OutboxTransactionService

namespace GatewayOutboxTransactionService

theorem insertOutboxEvent_writing (event : GatewayOutboxEventInput) :
    Writing (insertOutboxEvent event : Program M Thrown M.Saved) := by
  apply (writing_request rfl).bind
  intro now
  apply (writing_request rfl).bind
  intro traceContext
  cases event.eventId with
  | some eventId => exact writing_request rfl
  | none => exact (writing_request rfl).bind (fun _ => writing_request rfl)

theorem write_writing (work : Work M Thrown Value) (event : GatewayOutboxEventInput) :
    Writing (write work event) := by
  apply (onManager_writing work).bind
  intro result
  apply (insertOutboxEvent_writing event).bind
  intro row
  exact (writing_request rfl).bind (fun _ => trivial)

end GatewayOutboxTransactionService

section runs
variable (environment : Environment M)

/-- A callback neither takes a connection nor gives one back. -/
theorem Unpooled.kept {program : Program M Thrown Value} (unpooled : Unpooled program) (log : List (Event M)) :
    QueryRunner.of (program.evaluate environment.answer log).2 = QueryRunner.of log := by
  apply unpooled.unmoved
  intro log call other
  refine (QueryRunner.of_append log _).trans ?_
  cases call with
  | connect | release => cases other
  | _ => rfl

/-- Whatever becomes of the block and of its rollback, the block ends with one release. -/
theorem guarded_releases {body : Program M Thrown Value} (unpooled : Unpooled body) (log : List (Event M)) :
    QueryRunner.of ((Async.guarded body (request .rollbackTransaction) (request .release)).evaluate
        environment.answer log).2 =
      { QueryRunner.of log with releases := (QueryRunner.of log).releases + 1, checkedOut := false } := by
  have tried : Unpooled (Async.tryCatch body (fun error =>
      (request .rollbackTransaction).bind (fun _ => .reject error))) :=
    unpooled.tryCatch (fun error => (unpooled_request rfl).bind (fun _ => trivial))
  have kept := tried.kept environment log
  unfold Async.guarded
  rw [Async.evaluate_tryFinally]
  generalize (Async.tryCatch body _).evaluate environment.answer log = ended at kept ⊢
  rcases ended with ⟨outcome,after⟩
  dsimp only at kept ⊢
  have last : QueryRunner.of (environment.answer after .release).2 =
      { QueryRunner.of after with releases := (QueryRunner.of after).releases + 1, checkedOut := false } :=
    QueryRunner.of_append after _
  rw [← kept,← last,request,Async.evaluate_call]
  rcases environment.answer after .release with ⟨cleaned,settled⟩
  cases cleaned <;> rfl

namespace Environment

def connecting : Except Thrown Unit × List (Event M) := environment.answer [] .connect

def starting : Except Thrown Unit × List (Event M) := environment.answer environment.connecting.2 .startTransaction

def connects : Bool := (QueryRunner.of environment.connecting.2).connected

def starts : Bool := environment.connecting.1.isOk && environment.starting.1.isOk

/-- A connection is taken for a transaction that does not start. -/
def strands : Bool := environment.connects && !environment.starts

end Environment

theorem of_connecting : QueryRunner.of environment.connecting.2 = ⟨environment.connects,0,environment.connects⟩ := by
  unfold Environment.connects
  rw [show QueryRunner.of environment.connecting.2 = QueryRunner.created.note ⟨.connect,_,_,_⟩ from
    QueryRunner.of_append [] _]
  unfold QueryRunner.note
  dsimp only
  split <;> rfl

theorem of_starting : QueryRunner.of environment.starting.2 = QueryRunner.of environment.connecting.2 :=
  QueryRunner.of_append environment.connecting.2 _

theorem opening_evaluate : (opening : Program M Thrown Unit).evaluate environment.answer [] =
    match environment.connecting.1 with
    | .ok _ => environment.starting
    | .error error => (.error error,environment.connecting.2) := by
  unfold opening Environment.starting Environment.connecting
  rw [Async.evaluate_bind,request,Async.evaluate_call]
  rcases environment.answer [] .connect with ⟨outcome,after⟩
  cases outcome with
  | ok connected => exact Async.evaluate_call environment.answer _ after
  | error error => rfl

/-- A query runner that connects is released if its transaction starts, and else not at all. -/
theorem of_inTransaction {body : Program M Thrown Value} (unpooled : Unpooled body) :
    QueryRunner.of (environment.run (inTransaction body)).2 =
      if environment.starts then ⟨environment.connects,1,false⟩
      else ⟨environment.connects,0,environment.connects⟩ := by
  have opened := opening_evaluate environment
  unfold Environment.run Environment.starts
  cases connected : environment.connecting.1 with
  | error error =>
    rw [connected] at opened
    rw [evaluate_unopened environment.answer opened,of_connecting]
    rfl
  | ok connection =>
    rw [connected] at opened
    rcases started : environment.starting with ⟨outcome,log⟩
    have before : QueryRunner.of log = ⟨environment.connects,0,environment.connects⟩ := by
      rw [show log = environment.starting.2 by rw [started],of_starting,of_connecting]
    cases outcome with
    | error error =>
      rw [evaluate_unopened environment.answer (opened.trans started),before]
      rfl
    | ok start =>
      have opens : Opens environment.answer [] log := opened.trans started
      rw [evaluate_inTransaction environment.answer opens,guarded_releases environment unpooled,before]
      rfl

theorem released_iff {body : Program M Thrown Value} (unpooled : Unpooled body) :
    (QueryRunner.of (environment.run (inTransaction body)).2).Released ↔ environment.strands = false := by
  rw [of_inTransaction environment unpooled]
  unfold QueryRunner.Released Environment.strands
  cases environment.starts <;> cases environment.connects <;> simp

theorem checkedOut_inTransaction {body : Program M Thrown Value} (unpooled : Unpooled body) :
    (QueryRunner.of (environment.run (inTransaction body)).2).checkedOut = environment.strands := by
  rw [of_inTransaction environment unpooled]
  unfold Environment.strands
  cases environment.starts <;> simp

end runs

inductive Envelope (M : Manager) where
  | runWithOutboxEvents {T : Type} (work : Work M Thrown T) (events : List OutboxEventInput)
  | runIdempotentWithOutboxEvents {T : Type} (idempotency : IdempotencyInput) (work : Work M Thrown T)
      (events : List OutboxEventInput)
  | runWithOutboxEvent {T : Type} (work : Work M Thrown T) (event : GatewayOutboxEventInput)

namespace Envelope

def Result : Envelope M → Type
  | .runWithOutboxEvents (T := T) _ _ => T
  | .runIdempotentWithOutboxEvents (T := T) _ _ _ => IdempotentRunResult T
  | .runWithOutboxEvent _ _ => M.Saved

def program : (envelope : Envelope M) → Program M Thrown envelope.Result
  | .runWithOutboxEvents work events => OutboxTransactionService.runWithOutboxEvents work events
  | .runIdempotentWithOutboxEvents idempotency work events =>
      OutboxTransactionService.runIdempotentWithOutboxEvents Consumer.isUniqueViolation idempotency work events
  | .runWithOutboxEvent work event => GatewayOutboxTransactionService.runWithOutboxEvent work event

theorem program_eq (envelope : Envelope M) : ∃ body : Program M Thrown envelope.Result,
    Unpooled body ∧ envelope.program = inTransaction body := by
  cases envelope with
  | runWithOutboxEvents work events => exact ⟨_,(Transactions.write_writing work events).unpooled,rfl⟩
  | runIdempotentWithOutboxEvents idempotency work events =>
    exact ⟨_,OutboxTransactionService.writeOnce_unpooled _ idempotency work events,rfl⟩
  | runWithOutboxEvent work event => exact ⟨_,(GatewayOutboxTransactionService.write_writing work event).unpooled,rfl⟩

end Envelope

/-- A call and how all that it calls settles. What other calls do in between is part of that. -/
structure Execution (M : Manager) where
  envelope : Envelope M
  environment : Environment M

namespace Execution

def queryRunner (execution : Execution M) : QueryRunner :=
  .of (execution.environment.run execution.envelope.program).2

theorem released_iff (execution : Execution M) :
    execution.queryRunner.Released ↔ execution.environment.strands = false := by
  obtain ⟨body,unpooled,same⟩ := execution.envelope.program_eq
  unfold queryRunner
  rw [same]
  exact Transactions.released_iff execution.environment unpooled

theorem checkedOut_eq (execution : Execution M) :
    execution.queryRunner.checkedOut = execution.environment.strands := by
  obtain ⟨body,unpooled,same⟩ := execution.envelope.program_eq
  unfold queryRunner
  rw [same]
  exact checkedOut_inTransaction execution.environment unpooled

end Execution

def checkedOut (executions : List (Execution M)) : Nat :=
  executions.countP (fun execution => execution.queryRunner.checkedOut)

theorem checkedOut_eq (executions : List (Execution M)) :
    checkedOut executions = executions.countP (fun execution => execution.environment.strands) := by
  unfold checkedOut
  congr 1
  funext execution
  exact execution.checkedOut_eq

theorem queryRunners_released_iff (executions : List (Execution M)) :
    (∀ execution ∈ executions, execution.queryRunner.Released) ∧ checkedOut executions = 0 ↔
      ∀ execution ∈ executions, execution.environment.strands = false := by
  rw [checkedOut_eq,List.countP_eq_zero]
  constructor
  · intro released execution member
    exact execution.released_iff.mp (released.1 execution member)
  · intro starts
    refine ⟨?_,?_⟩
    · intro execution member
      exact execution.released_iff.mpr (starts execution member)
    · intro execution member
      simp [starts execution member]

/-- The client does not wait any longer for the answer to `START TRANSACTION`, and its connection lives on. -/
def timingOut : Environment messages
  | _,.startTransaction => (.error (.ofMessage "Query read timeout"),true,0)
  | _,.connect | _,.release => (.ok (),true,0)
  | _,_ => (.error (.ofMessage "Query read timeout"),false,0)

def timedOutTransactions : List (Execution messages) :=
  [⟨.runWithOutboxEvents (.resolve ()) [],timingOut⟩,
    ⟨.runIdempotentWithOutboxEvents ⟨"e","CreateMessageEvent",none⟩ (.resolve ()) [],timingOut⟩,
    ⟨.runWithOutboxEvent (.resolve ()) ⟨"CreateMessageEvent",.null,none,none,none⟩,timingOut⟩]

/-- None of the three query runners is released, and three connections stay checked out. -/
theorem timed_out_transactions_unreleased : ¬ ∀ executions : List (Execution messages),
    (∀ execution ∈ executions, execution.queryRunner.Released) ∨ checkedOut executions = 0 := by
  intro released
  obtain once | none := released timedOutTransactions
  · have runner : Execution.queryRunner ⟨.runWithOutboxEvents (.resolve ()) [],timingOut⟩ = ⟨true,0,true⟩ := rfl
    have first := once _ List.mem_cons_self
    rw [runner] at first
    cases first rfl
  · rw [show checkedOut timedOutTransactions = 3 from rfl] at none
    cases none

end MessagingPlatform.Transactions
