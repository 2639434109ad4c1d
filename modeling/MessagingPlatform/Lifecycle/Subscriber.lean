import MessagingPlatform.Lib.Js
import MessagingPlatform.Lib.Machine

/-! `EventLifecycleSubscriber`: what its consume callback, its `waitFor` and its timers do to the
records and the waiters that they share. Each of them runs to its end before the next one starts. -/
namespace MessagingPlatform.Lifecycle

inductive EventLifecycleStage where
  | emitted
  | received
  | validated
  | rejected
  | persisted
deriving DecidableEq

def EventLifecycleStage.name : EventLifecycleStage → String
  | .emitted => "emitted"
  | .received => "received"
  | .validated => "validated"
  | .rejected => "rejected"
  | .persisted => "persisted"

structure WaitFor where
  eventId : String
  stage : EventLifecycleStage
  timeoutMs : JsNumber

/-- `call` stands for the waiter's own identity and for the promise that `resolve` resolves. Once
`resolve` has been replaced, it clears `timer` first. -/
structure Waiter where
  call : Nat
  sought : WaitFor
  timer : Option Nat

/-- The fields of the subscriber, and around them the calls of `waitFor`, the timers that have not
fired, the settlements of the calls and what was thrown out of a callback. -/
structure State where
  records : List Json
  waiters : List Waiter
  acks : Nat
  calls : List WaitFor
  timers : List Nat
  settlements : List (Nat × Except Thrown Json)
  uncaught : List Thrown

/-- A block of the code. What it has done before it throws stays done. -/
abbrev Code (Value : Type) := EStateM Thrown State Value

def typeError (value name : String) : Thrown :=
  ⟨.error,"TypeError",s!"Cannot read properties of {value} (reading '{name}')",none,none⟩

/-- `record[name]`. -/
def member (record : Json) (name : String) : Except Thrown (Option Json) :=
  match record with
  | .null => .error (typeError "null" name)
  | record => .ok (record.get? name)

def strictEquals (value : Option Json) (text : String) : Bool :=
  match value with
  | some (.str other) => other == text
  | _ => false

namespace WaitFor

def predicate (sought : WaitFor) (record : Json) : Except Thrown Bool := do
  let eventId ← member record "eventId"
  if strictEquals eventId sought.eventId then do
    let stage ← member record "stage"
    return strictEquals stage sought.stage.name
  else return false

def timedOut (engine : Engine) (sought : WaitFor) (observed : List Json) : Thrown :=
  .ofMessage (s!"Timed out after {engine.print sought.timeoutMs}ms waiting for eventId={sought.eventId} " ++
    s!"to reach stage=\"{sought.stage.name}\". Observed stages for other events: " ++
    (Json.arr observed).print engine)

end WaitFor

def State.settle (state : State) (call : Nat) (outcome : Except Thrown Json) : State :=
  { state with settlements := state.settlements ++ [(call,outcome)] }

namespace Waiter

def resolve (waiter : Waiter) (record : Json) : Code Unit := do
  match waiter.timer with
  | some timer => modify (fun state => { state with timers := state.timers.filter (· ≠ timer) })
  | none => pure ()
  modify (fun state => state.settle waiter.call (.ok record))

end Waiter

namespace EventLifecycleSubscriber

def splice (index : Nat) : Code Unit :=
  modify (fun state => { state with waiters := state.waiters.eraseIdx index })

def waiterAt (index : Nat) : Code Waiter := do
  let state ← get
  match state.waiters[index]? with
  | some waiter => pure waiter
  | none => throw (typeError "undefined" "predicate")

/-- The loop of `notifyWaiters`, which goes down from an index. -/
def notifyBelow (record : Json) : Nat → Code Unit
  | 0 => pure ()
  | index + 1 => do
      let waiter ← waiterAt index
      let found ← MonadExcept.ofExcept (waiter.sought.predicate record)
      if found then
        splice index
        waiter.resolve record
      notifyBelow record index

def notifyWaiters (record : Json) : Code Unit := do
  let state ← get
  notifyBelow record state.waiters.length

def parse (content : Body) : Code Json :=
  match content.parse with
  | some record => pure record
  | none => throw ⟨.error,"SyntaxError","",none,none⟩

/-- The callback of `channel.consume`. -/
def consume : Option Body → Code Unit
  | none => pure ()
  | some content => do
      tryCatch
        (do
          let record ← parse content
          modify (fun state => { state with records := state.records ++ [record] })
          notifyWaiters record)
        (fun _ => pure ())
      modify (fun state => { state with acks := state.acks + 1 })

/-- The executor of the promise that `waitFor` returns when it has seen no record. -/
def wait (call : Nat) (sought : WaitFor) : Code Unit := do
  modify (fun state => { state with waiters := state.waiters ++ [⟨call,sought,none⟩] })
  modify (fun state => { state with timers := state.timers ++ [call] })
  modify (fun state => { state with
    waiters := state.waiters.map (fun waiter =>
      if waiter.call = call then { waiter with timer := some call } else waiter) })

/-- Resolves to nothing while the promise is pending. -/
def waitFor (call : Nat) (sought : WaitFor) : Code (Option Json) := do
  let state ← get
  let existing ← MonadExcept.ofExcept (state.records.findM? sought.predicate)
  match existing with
  | some record => return some record
  | none => do
      wait call sought
      return none

def stageOf (record : Json) : Except Thrown Json := do
  let eventId ← member record "eventId"
  let stage ← member record "stage"
  return .ofFields [("eventId",eventId),("stage",stage)]

def withdraw (call : Nat) : Code Unit := do
  let state ← get
  match state.waiters.findIdx? (fun waiter => waiter.call == call) with
  | some index => splice index
  | none => pure ()

def onTimeout (engine : Engine) (call : Nat) (sought : WaitFor) : Code Unit := do
  withdraw call
  let state ← get
  let observed ← MonadExcept.ofExcept (state.records.mapM stageOf)
  modify (fun state => state.settle call (.error (sought.timedOut engine observed)))

end EventLifecycleSubscriber

inductive Event where
  | message (msg : Option Body)
  | waitFor (eventId : String) (stage : EventLifecycleStage) (timeoutMs : Option JsNumber)
  | timeout (call : Nat)

def WaitFor.of (eventId : String) (stage : EventLifecycleStage) (timeoutMs : Option JsNumber) : WaitFor :=
  ⟨eventId,stage,timeoutMs.getD (.ofNat 10000)⟩

namespace State

open EventLifecycleSubscriber

def initial : State := ⟨[],[],0,[],[],[],[]⟩

def perform (state : State) (callback : Code Unit) : State :=
  match callback state with
  | .ok _ after => after
  | .error error after => { after with uncaught := after.uncaught ++ [error] }

/-- An `async` function rejects with what its body throws. -/
def callWaitFor (state : State) (sought : WaitFor) : State :=
  let number := state.calls.length
  match waitFor number sought { state with calls := state.calls ++ [sought] } with
  | .ok (some record) after => after.settle number (.ok record)
  | .ok none after => after
  | .error error after => after.settle number (.error error)

def step (engine : Engine) (state : State) : Event → Option State
  | .message msg => some (state.perform (consume msg))
  | .waitFor eventId stage timeoutMs => some (state.callWaitFor (.of eventId stage timeoutMs))
  | .timeout number => (state.calls[number]?).bind (fun sought =>
      if number ∈ state.timers then
        some (perform { state with timers := state.timers.filter (· ≠ number) } (onTimeout engine number sought))
      else none)

def settlementsOf (state : State) (call : Nat) : List (Except Thrown Json) :=
  state.settlements.filterMap (fun settled => if settled.1 = call then some settled.2 else none)

end State
end MessagingPlatform.Lifecycle
