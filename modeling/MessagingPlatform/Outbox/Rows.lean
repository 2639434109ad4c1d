import Mathlib.Data.List.Sort
import Mathlib.Data.List.Dedup
import MessagingPlatform.Lib.Table
import MessagingPlatform.Contracts.Headers
import MessagingPlatform.Contracts.Topology

/-! The outbox tables and the SQL statements of the relays and the admin services. The tables
`outbox_events` and `gateway_outbox_events` have the same columns and receive the same
statements. A statement is one atomic update of the table it names. -/
namespace MessagingPlatform.Outbox

inductive Service where
  | messaging
  | gateway
deriving DecidableEq

inductive OutboxStatus where
  | pending
  | sent
  | failed
deriving DecidableEq

structure OutboxEvent where
  id : Nat
  eventType : String
  payload : Json
  correlationId : Option String
  status : OutboxStatus
  attempts : Int
  lastError : Option String
  sentAt : Option Int
  lockedAt : Option Int
  lockedBy : Option String
  nextRetryAt : Int
  maxAttempts : Int
  eventId : Option String
  lockVersion : Int
  traceContext : Option TraceCarrier

abbrev OutboxTable := Table OutboxEvent OutboxEvent.id

structure ClaimedRow where
  id : Nat
  eventType : String
  payload : Json
  correlationId : Option String
  attempts : Int
  maxAttempts : Int
  lockVersion : Int
  traceContext : Option TraceCarrier
  eventId : Option String

inductive Statement where
  | claim (lockedBy : String) (limit : Nat)
  | markSent (id : Nat) (lockVersion : Int)
  | markFailed (status : OutboxStatus) (attempts : Int) (lastError : String)
      (nextRetryAt : Option Int) (id : Nat) (lockVersion : Int)
  | reap (ttlMs : Int)
  | replayOne (id : Nat)
  | replayFailed (eventType : Option String)
deriving DecidableEq

abbrev Statement.Row : Statement → Type
  | .claim _ _ => ClaimedRow
  | _ => Nat

namespace OutboxEvent

def claimed (row : OutboxEvent) : ClaimedRow :=
  ⟨row.id,row.eventType,row.payload,row.correlationId,row.attempts,row.maxAttempts,
    row.lockVersion,row.traceContext,row.eventId⟩

def due (now : Int) (row : OutboxEvent) : Bool :=
  row.status == .pending && decide (row.nextRetryAt ≤ now)

def lockedWithin (ttlMs now : Int) (row : OutboxEvent) : Bool :=
  row.lockedAt.any (fun lockedAt => decide (now - lockedAt ≤ ttlMs))

def unlocked (row : OutboxEvent) : OutboxEvent := { row with lockedAt := none, lockedBy := none }

def replayed (now : Int) (row : OutboxEvent) : OutboxEvent :=
  { row with status := .pending, attempts := 0, nextRetryAt := now, lockedAt := none, lockedBy := none }

end OutboxEvent

theorem unlocked_id (row : OutboxEvent) : row.unlocked.id = row.id := rfl

/-- The sub-select of the claim. `scan` lists the rows in the order they are visited; rows
that another statement has locked are skipped, so they are not in it. -/
def candidates (table : OutboxTable) (now : Int) (scan : List Nat) (limit : Nat) :
    List OutboxEvent :=
  (((scan.dedup.filterMap table.find?).filter (OutboxEvent.due now)).insertionSort
    (fun left right => left.nextRetryAt ≤ right.nextRetryAt)).take limit

/-- The UPDATE that a statement is in a given state. An invalid `next_retry_at` is no
parameter the database accepts. -/
def Statement.update (table : OutboxTable) (now : Int) (scan : List Nat) :
    Statement → Option (Update OutboxEvent OutboxEvent.id)
  | .claim lockedBy limit =>
      let ids := (candidates table now scan limit).map OutboxEvent.id
      some {
        cond row := decide (row.id ∈ ids)
        set row := { row with
          lockedAt := some now, lockedBy := some lockedBy, lockVersion := row.lockVersion + 1 }
        keepsKey _ := rfl }
  | .markSent id lockVersion =>
      some {
        cond row := row.id == id && row.lockVersion == lockVersion
        set row := { row.unlocked with status := .sent, sentAt := some now }
        keepsKey _ := rfl }
  | .markFailed status attempts lastError nextRetryAt id lockVersion =>
      nextRetryAt.map (fun nextRetryAt => {
        cond row := row.id == id && row.lockVersion == lockVersion
        set row := { row.unlocked with status, attempts, lastError := some lastError, nextRetryAt }
        keepsKey _ := rfl })
  | .reap ttlMs =>
      some {
        cond row := row.status == .pending &&
          row.lockedAt.any (fun lockedAt => decide (lockedAt < now - ttlMs))
        set row := row.unlocked
        keepsKey _ := rfl }
  | .replayOne id =>
      some {
        cond row := row.id == id && row.status == .failed
        set row := row.replayed now
        keepsKey _ := rfl }
  | .replayFailed eventType =>
      some {
        cond row := row.status == .failed && eventType.all (fun type => row.eventType == type)
        set row := row.replayed now
        keepsKey _ := rfl }

def Statement.returned (rows : List OutboxEvent) : (statement : Statement) → List statement.Row
  | .claim _ _ => rows.map OutboxEvent.claimed
  | .markSent _ _ | .markFailed _ _ _ _ _ _ | .reap _ | .replayOne _ | .replayFailed _ =>
      rows.map OutboxEvent.id

theorem mem_candidates {table : OutboxTable} {now : Int} {scan : List Nat} {limit : Nat}
    {row : OutboxEvent} (chosen : row ∈ candidates table now scan limit) :
    row ∈ table ∧ row.due now := by
  have sorted := List.mem_of_mem_take chosen
  rw [List.mem_insertionSort,List.mem_filter,List.mem_filterMap] at sorted
  obtain ⟨⟨id,_,found⟩,due⟩ := sorted
  exact ⟨(Table.find?_eq_some.mp found).1,due⟩

inductive Statement.Writes (now : Int) : Statement → OutboxEvent → OutboxEvent → Prop
  | claim {lockedBy limit row} (due : row.due now) : Writes now (.claim lockedBy limit) row
      { row with lockedAt := some now, lockedBy := some lockedBy, lockVersion := row.lockVersion + 1 }
  | markSent {row} : Writes now (.markSent row.id row.lockVersion) row
      { row.unlocked with status := .sent, sentAt := some now }
  | markFailed {status attempts lastError nextRetryAt row} :
      Writes now (.markFailed status attempts lastError (some nextRetryAt) row.id row.lockVersion) row
        { row.unlocked with status, attempts, lastError := some lastError, nextRetryAt }
  | reap {ttlMs row lockedAt} (pending : row.status = .pending) (locked : row.lockedAt = some lockedAt)
      (stale : lockedAt < now - ttlMs) : Writes now (.reap ttlMs) row row.unlocked
  | replayOne {row} (failed : row.status = .failed) :
      Writes now (.replayOne row.id) row (row.replayed now)
  | replayFailed {eventType row} (failed : row.status = .failed)
      (selected : eventType.all (fun type => row.eventType == type)) :
      Writes now (.replayFailed eventType) row (row.replayed now)

/-- Every change that a statement makes to a row is one of the writes above. -/
theorem Statement.write_cases {statement : Statement} {table : OutboxTable} {now : Int}
    {scan : List Nat} {update : Update OutboxEvent OutboxEvent.id} {row : OutboxEvent}
    (means : statement.update table now scan = some update) (member : row ∈ table)
    (matched : update.cond row) : statement.Writes now row (update.set row) := by
  cases statement with
  | claim lockedBy limit =>
    obtain rfl := Option.some.inj means
    obtain ⟨chosen,among,same⟩ := List.mem_map.mp (of_decide_eq_true matched)
    obtain ⟨present,due⟩ := mem_candidates among
    rw [Table.eq_of_key present member same] at due
    exact .claim due
  | markSent id lockVersion =>
    obtain rfl := Option.some.inj means
    simp only [Bool.and_eq_true,beq_iff_eq] at matched
    obtain ⟨rfl,rfl⟩ := matched
    exact .markSent
  | markFailed status attempts lastError nextRetryAt id lockVersion =>
    obtain ⟨instant,rfl,rfl⟩ := Option.map_eq_some_iff.mp means
    simp only [Bool.and_eq_true,beq_iff_eq] at matched
    obtain ⟨rfl,rfl⟩ := matched
    exact .markFailed
  | reap ttlMs =>
    obtain rfl := Option.some.inj means
    simp only [Bool.and_eq_true,beq_iff_eq,Option.any_eq_true,decide_eq_true_eq] at matched
    obtain ⟨pending,lockedAt,locked,stale⟩ := matched
    exact .reap pending locked stale
  | replayOne id =>
    obtain rfl := Option.some.inj means
    simp only [Bool.and_eq_true,beq_iff_eq] at matched
    obtain ⟨rfl,failed⟩ := matched
    exact .replayOne failed
  | replayFailed eventType =>
    obtain rfl := Option.some.inj means
    simp only [Bool.and_eq_true,beq_iff_eq] at matched
    exact .replayFailed matched.1 matched.2

end MessagingPlatform.Outbox
