import Mathlib.Logic.Function.Basic
import MessagingPlatform.Lib.Js
import MessagingPlatform.Lib.Machine
import MessagingPlatform.Lib.Protocol

/-! The ledger of processed events as `IdempotencyService` uses it: its calls as promise programs, and
the table with its unique index under any number of them. -/
namespace MessagingPlatform.Idempotency

structure MarkProcessedOptions where
  eventId : String
  eventType : String
  correlationId : Option String
  result : Option Json

/-- A row as it is read; a `result` of `none` is NULL. -/
structure ProcessedEvent where
  eventId : String
  eventType : String
  correlationId : Option String
  result : Option Json
  processedAt : Int

/-- `existing?.result` is `undefined` without a row, and what the row holds with one. -/
structure DuplicateRecord where
  processedAt : Int
  result : Option (Option Json)

inductive IdempotencyResult where
  | duplicate (record : DuplicateRecord)
  | recorded (processedAt : Int)

inductive Request where
  | save (record : MarkProcessedOptions)
  | findOne (eventId : String)
  | newDate

abbrev Reply : Request → Type
  | .save _ => ProcessedEvent
  | .findOne _ => Option ProcessedEvent
  | .newDate => Int

abbrev Program (Value : Type) := Async Thrown Request Reply Value

namespace IdempotencyService

def extractPgCode (error : Thrown) : Option String := error.code.or error.driverCode

/-- The date is only made where there is no row. -/
def duplicateOf (eventId : String) : Program IdempotencyResult := do
  let existing : Option ProcessedEvent ← Async.call (Request.findOne eventId)
  match existing with
  | some row => return .duplicate { processedAt := row.processedAt, result := some row.result }
  | none =>
      let now ← Async.call Request.newDate
      return .duplicate { processedAt := now, result := none }

def checkAndMark (options : MarkProcessedOptions) : Program IdempotencyResult :=
  Async.tryCatch (do
      let saved : ProcessedEvent ← Async.call (Request.save options)
      return .recorded saved.processedAt)
    (fun error =>
      if extractPgCode error = some "23505" then duplicateOf options.eventId else .reject error)

end IdempotencyService

open IdempotencyService (checkAndMark)

structure Call where
  options : MarkProcessedOptions
  program : Program IdempotencyResult

/-- A row with the call that inserted it; the rows of the beginning have none. -/
structure Entry where
  row : ProcessedEvent
  author : Option Nat

/-- `pending` holds the inserts whose transactions are open, by what they hold of the unique index. -/
structure State where
  rows : String → Option Entry
  pending : String → Option (Nat × ProcessedEvent)
  calls : Nat → Option Call

/-- What the database or the clock does for a call. An insert waits as long as nothing of this is
possible for it. -/
inductive Event where
  | inserts (processedAt : Int)
  | commits
  | violates (error : Thrown)
  | refuses (error : Thrown)
  | finds
  | ticks (now : Int)

inductive Action where
  | start (call : Nat) (options : MarkProcessedOptions)
  | perform (call : Nat) (event : Event)

/-- The code stands on the error, on the driver's error in it, or on both. -/
def Carries (error : Thrown) (code : String) : Prop :=
  (error.code = some code ∧ (error.driverCode = none ∨ error.driverCode = some code)) ∨
    (error.code = none ∧ error.driverCode = some code)

def Mentions (error : Thrown) (code : String) : Prop :=
  error.code = some code ∨ error.driverCode = some code

instance (error : Thrown) (code : String) : Decidable (Carries error code) :=
  inferInstanceAs (Decidable (_ ∨ _))

instance (error : Thrown) (code : String) : Decidable (Mentions error code) :=
  inferInstanceAs (Decidable (_ ∨ _))

/-- The row that an insert writes; `column` is what the column `result` keeps of a value. -/
def MarkProcessedOptions.row (column : Option Json → Option Json) (options : MarkProcessedOptions)
    (processedAt : Int) : ProcessedEvent :=
  { eventId := options.eventId, eventType := options.eventType, correlationId := options.correlationId,
    result := column options.result, processedAt }

namespace State

def begin (rows : String → Option ProcessedEvent) : State where
  rows eventId := (rows eventId).map (fun row => ⟨row,none⟩)
  pending _ := none
  calls _ := none

def Holds (state : State) (call : Nat) (eventId : String) : Prop :=
  ∃ row, state.pending eventId = some (call,row)

instance (state : State) (call : Nat) (eventId : String) : Decidable (state.Holds call eventId) :=
  match held : state.pending eventId with
  | none => .isFalse (by rintro ⟨row,same⟩; rw [held] at same; cases same)
  | some (holder,row) => decidable_of_iff (holder = call)
      ⟨fun same => ⟨row,by rw [held,same]⟩,fun ⟨_,same⟩ => by
        rw [held] at same
        exact congrArg Prod.fst (Option.some.inj same)⟩

def hold (state : State) (eventId : String) (call : Nat) (row : ProcessedEvent) : State :=
  { state with pending := Function.update state.pending eventId (some (call,row)) }

def insert (state : State) (eventId : String) (entry : Entry) : State :=
  { state with rows := Function.update state.rows eventId (some entry) }

def resume (state : State) (number : Nat) (call : Call) : State :=
  { state with calls := Function.update state.calls number (some call) }

def release (state : State) (eventId : String) : State :=
  { state with pending := Function.update state.pending eventId none }

def serve (column : Option Json → Option Json) (state : State) (call : Nat) :
    (request : Request) → Event → Option (State × Option (Except Thrown (Reply request)))
  | .save options, .inserts processedAt =>
      if (state.rows options.eventId).isNone ∧ (state.pending options.eventId).isNone then
        some (state.hold options.eventId call (options.row column processedAt),none)
      else none
  | .save options, .commits =>
      match state.pending options.eventId with
      | some (holder,row) =>
          if holder = call then
            some ((state.release options.eventId).insert options.eventId ⟨row,some call⟩,some (.ok row))
          else none
      | none => none
  | .save options, .violates error =>
      if ¬ state.Holds call options.eventId ∧ (state.rows options.eventId).isSome ∧ Carries error "23505" then
        some (state,some (.error error))
      else none
  | .save options, .refuses error =>
      if Mentions error "23505" then none
      else if state.Holds call options.eventId then some (state.release options.eventId,some (.error error))
      else some (state,some (.error error))
  | .findOne eventId, .finds => some (state,some (.ok ((state.rows eventId).map Entry.row)))
  | .findOne _, .refuses error => some (state,some (.error error))
  | .newDate, .ticks now => some (state,some (.ok now))
  | _, _ => none

def step (column : Option Json → Option Json) (state : State) : Action → Option State
  | .start call options =>
      if (state.calls call).isSome then none
      else some (state.resume call ⟨options,checkAndMark options⟩)
  | .perform call event =>
      match state.calls call with
      | some ⟨options,.await request next⟩ =>
          (state.serve column call request event).map (fun served =>
            match served.2 with
            | none => served.1
            | some answer => served.1.resume call ⟨options,next answer⟩)
      | _ => none

def Reach (column : Option Json → Option Json) (rows : String → Option ProcessedEvent) (state : State) : Prop :=
  Machine.Reaches (step column) (fun _ _ => True) (begin rows) state

end State
end MessagingPlatform.Idempotency
