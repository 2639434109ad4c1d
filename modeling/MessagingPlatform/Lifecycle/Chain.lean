import MessagingPlatform.Lifecycle.Exactness
import MessagingPlatform.Lifecycle.Publisher

/-! A subscriber whose messages are all published by `EventLifecyclePublisher`, and the `EventTracker`
that awaits the four stages of an event on it, one after the other. In what order the records of the
stages arrive makes no difference. -/
namespace MessagingPlatform.Lifecycle

theorem EventLifecycleStage.name_injective {left right : EventLifecycleStage} (same : left.name = right.name) :
    left = right := by
  cases left <;> cases right <;> first | rfl | exact absurd same (by decide)

section published
variable {record : EventLifecycleRecord} {service : String} {now : Int} {sought : WaitFor}

theorem full_ne_null : record.full service now ≠ .null := by
  rintro ⟨⟩

theorem full_eventId : (record.full service now).get? "eventId" = some (.str record.eventId) := rfl

theorem full_stage : (record.full service now).get? "stage" = some (.str record.stage.name) := rfl

/-- What is published is sought by the waits for its event and its stage alone. -/
theorem seeks_full : sought.seeks (record.full service now) = true ↔
    record.eventId = sought.eventId ∧ record.stage = sought.stage := by
  unfold WaitFor.seeks
  rw [full_eventId,full_stage]
  simp only [strictEquals,Bool.and_eq_true,beq_iff_eq]
  exact and_congr_right (fun _ => ⟨EventLifecycleStage.name_injective,congrArg _⟩)

end published

/-- The message is a record that a publisher has emitted, or the cancellation of the consumer. -/
def Event.Published : Event → Prop
  | .message (some body) => ∃ (record : EventLifecycleRecord) (service : String) (now : Int),
      body = .stringify (record.full service now)
  | .message none | .waitFor _ _ _ | .timeout _ => True

section subscriber
variable {engine : Engine} {events : List Event} {event : Event} {state after : State}

theorem arrival_published (published : event.Published) {json : Json} (arrives : event.arrival = some json) :
    ∃ (record : EventLifecycleRecord) (service : String) (now : Int), json = record.full service now := by
  cases event with
  | message msg =>
    cases msg with
    | none => cases arrives
    | some body =>
      obtain ⟨record,service,now,rfl⟩ := published
      exact ⟨record,service,now,(Option.some.inj arrives).symm⟩
  | waitFor _ _ _ | timeout _ => cases arrives

theorem mem_arrivals_published (published : ∀ event ∈ events, event.Published) {json : Json}
    (member : json ∈ arrivals events) :
    ∃ (record : EventLifecycleRecord) (service : String) (now : Int), json = record.full service now := by
  obtain ⟨event,among,arrives⟩ := List.mem_filterMap.mp member
  exact arrival_published (published event among) arrives

theorem heeded_of_published (consistent : Consistent events state)
    (published : ∀ event ∈ events, event.Published) (event : Event) : Heeded state event := by
  have readable : .null ∉ state.records := by
    intro member
    rw [consistent.records] at member
    obtain ⟨record,service,now,null⟩ := mem_arrivals_published published member
    exact full_ne_null null.symm
  cases event with
  | message msg => trivial
  | waitFor eventId stage timeoutMs => exact fun member => readable (List.takeWhile_subset _ member)
  | timeout number => exact readable

/-- With publishers alone on the exchange the invariant of the waits holds in every run. -/
theorem kept_of_published (ran : Machine.run (State.step engine) .initial events = some state)
    (published : ∀ event ∈ events, event.Published) :
    Kept engine events state := by
  induction events using List.reverseRecOn generalizing state with
  | nil =>
    obtain rfl := Option.some.inj ran
    exact .initial
  | append_singleton events event ih =>
    have split := ran
    rw [Machine.run_concat] at split
    obtain ⟨before,past,taken⟩ := Option.bind_eq_some_iff.mp split
    have earlier : ∀ event ∈ events, event.Published :=
      fun other member => published other (List.mem_append_left _ member)
    have kept := ih past earlier
    exact kept.step taken (heeded_of_published kept.2 earlier event)

/-- What a wait has resolved with is a record that has arrived, and that it seeks. -/
theorem Kept.resolved (kept : Kept engine events state) {number : Nat} {sought : WaitFor} {json : Json}
    (made : (registrations events)[number]? = some sought) (settled : .ok json ∈ state.settlementsOf number) :
    json ∈ arrivals events ∧ sought.seeks json = true := by
  rw [kept.1.settled number sought made,Option.mem_toList] at settled
  unfold verdict at settled
  split at settled
  next found here =>
    obtain rfl := Except.ok.inj (Option.some.inj settled)
    refine ⟨?_,List.find?_some here⟩
    have present := List.mem_of_find?_eq_some here
    exact (List.Sublist.filterMap _ (List.takeWhile_sublist _)).subset present
  next =>
    split at settled
    next => cases settled
    next => cases settled

end subscriber

/-- On an exchange with publishers alone every wait is exact, whatever arrives in whatever order, and
it resolves only with a published record of its event and its stage. -/
theorem published_waits_exact (engine : Engine) {events : List Event} {state : State}
    (ran : Machine.run (State.step engine) .initial events = some state)
    (published : ∀ event ∈ events, event.Published) :
    Machine.Throughout (State.step engine) (Exact engine) .initial events ∧
    ∀ number sought json, (registrations events)[number]? = some sought →
      .ok json ∈ state.settlementsOf number → json ∈ arrivals events ∧
      ∃ record service now, json = EventLifecycleRecord.full record service now ∧
        record.eventId = sought.eventId ∧ record.stage = sought.stage := by
  refine ⟨?_,?_⟩
  · intro earlier begun middle went
    have among : ∀ event ∈ earlier, event.Published := fun event member => published event (begun.subset member)
    exact (kept_of_published went among).1
  intro number sought json made settled
  obtain ⟨arrived,seeks⟩ := (kept_of_published ran published).resolved made settled
  obtain ⟨record,service,now,rfl⟩ := mem_arrivals_published published arrived
  exact ⟨arrived,record,service,now,rfl,seeks_full.mp seeks⟩

structure Awaited where
  eventId : String
  stage : EventLifecycleStage
  timeoutMs : Option JsNumber

def Awaited.sought (awaited : Awaited) : WaitFor := .of awaited.eventId awaited.stage awaited.timeoutMs

structure FullChain where
  emitted : Json
  received : Json
  validated : Json
  persisted : Json

abbrev TrackerProgram (Value : Type) := Async Thrown Awaited (fun _ => Json) Value

namespace EventTracker

variable (eventId : String) (timeoutMs : Option JsNumber)

def waitForEmitted : TrackerProgram Json := Async.call ⟨eventId,.emitted,timeoutMs⟩

def waitForReceived : TrackerProgram Json := Async.call ⟨eventId,.received,timeoutMs⟩

def waitForValidated : TrackerProgram Json := Async.call ⟨eventId,.validated,timeoutMs⟩

def waitForPersisted : TrackerProgram Json := Async.call ⟨eventId,.persisted,timeoutMs⟩

def waitForFullChain : TrackerProgram FullChain := do
  let emitted ← waitForEmitted eventId timeoutMs
  let received ← waitForReceived eventId timeoutMs
  let validated ← waitForValidated eventId timeoutMs
  let persisted ← waitForPersisted eventId timeoutMs
  return ⟨emitted,received,validated,persisted⟩

end EventTracker

/-- A subscriber, and a program that awaits calls of its `waitFor`; `pending` is the call under way. -/
structure Tracker (Value : Type) where
  subscriber : State
  program : TrackerProgram Value
  pending : Option Nat

inductive TrackerEvent where
  | subscriber (event : Event)
  /-- The program makes its call, or it goes on with the settlement of the call. -/
  | proceed

namespace Tracker

variable {Value : Type}

def start (program : TrackerProgram Value) : Tracker Value := ⟨.initial,program,none⟩

def step (engine : Engine) (tracker : Tracker Value) : TrackerEvent → Option (Tracker Value)
  | .subscriber event => (State.step engine tracker.subscriber event).map (fun after =>
      { tracker with subscriber := after })
  | .proceed =>
      match tracker.program, tracker.pending with
      | .await awaited _, none => some { tracker with
          subscriber := tracker.subscriber.callWaitFor awaited.sought
          pending := some tracker.subscriber.calls.length }
      | .await _ next, some call =>
          match tracker.subscriber.settlementsOf call with
          | outcome :: _ => some { tracker with program := next outcome, pending := none }
          | [] => none
      | _, _ => none

def Published (_ : Tracker Value) : TrackerEvent → Prop
  | .subscriber event => event.Published
  | .proceed => True

def TimedOut (tracker : Tracker Value) : Prop :=
  (∃ error, tracker.program = .reject error) ∨
    ∃ call error, tracker.pending = some call ∧ .error error ∈ tracker.subscriber.settlementsOf call

end Tracker

structure Answered where
  answers : List (Awaited × Json)
  rejected : Bool

/-- A wait resolves with a record that it seeks, and after a wait that rejects the program makes no
further one. -/
def seeking (asks : Awaited → Prop) : Protocol Answered Thrown Awaited (fun _ => Json) where
  allows view awaited := view.rejected = false ∧ asks awaited
  moves view awaited outcome after := match outcome with
    | .ok json => awaited.sought.seeks json = true ∧ after = { view with answers := view.answers ++ [(awaited,json)] }
    | .error _ => after = { view with rejected := true }

def Finds {Value : Type} (found : List (Awaited × Json) → Value → Prop) (view : Answered)
    (outcome : Except Thrown Value) : Prop :=
  match outcome with
  | .ok value => view.rejected = false ∧ found view.answers value
  | .error _ => view.rejected = true

def FullChain.answers (eventId : String) (timeoutMs : Option JsNumber) (chain : FullChain) : List (Awaited × Json) := [
  (⟨eventId,.emitted,timeoutMs⟩,chain.emitted),
  (⟨eventId,.received,timeoutMs⟩,chain.received),
  (⟨eventId,.validated,timeoutMs⟩,chain.validated),
  (⟨eventId,.persisted,timeoutMs⟩,chain.persisted)]

/-- A record that the subscriber has received, and that a publisher has emitted for this stage of the event. -/
def State.Received (state : State) (eventId : String) (stage : EventLifecycleStage) (json : Json) : Prop :=
  json ∈ state.records ∧ ∃ (record : EventLifecycleRecord) (service : String) (now : Int),
    json = record.full service now ∧ record.eventId = eventId ∧ record.stage = stage

structure FullChain.Of (state : State) (eventId : String) (chain : FullChain) : Prop where
  emitted : state.Received eventId .emitted chain.emitted
  received : state.Received eventId .received chain.received
  validated : state.Received eventId .validated chain.validated
  persisted : state.Received eventId .persisted chain.persisted

def InChain (eventId : String) (timeoutMs : Option JsNumber) (awaited : Awaited) : Prop :=
  ∃ stage ∈ [EventLifecycleStage.emitted,.received,.validated,.persisted], awaited = ⟨eventId,stage,timeoutMs⟩

namespace EventTracker

variable {Value : Type} {asks : Awaited → Prop}

theorem seeking_call {awaited : Awaited} (asked : asks awaited) {f : Json → TrackerProgram Value}
    {found : List (Awaited × Json) → Value → Prop} {answers : List (Awaited × Json)}
    (continues : ∀ json, (seeking asks).Follows (f json) ⟨answers ++ [(awaited,json)],false⟩ (Finds found)) :
    (seeking asks).Follows ((Async.call awaited).bind f) ⟨answers,false⟩ (Finds found) := by
  apply @Protocol.Follows.bind _ _ _ _ _ _ _ _ _ _ (fun view (outcome : Except Thrown Json) => match outcome with
    | .ok json => view = ⟨answers ++ [(awaited,json)],false⟩
    | .error _ => view.rejected = true)
  · refine Protocol.Follows.call ⟨rfl,asked⟩ ?_
    intro outcome view moved
    cases outcome with
    | ok json => exact moved.2
    | error error =>
      obtain rfl : view = ⟨answers,true⟩ := moved
      exact rfl
  · intro view json learned
    obtain rfl : view = ⟨answers ++ [(awaited,json)],false⟩ := learned
    exact continues json
  · intro view error learned
    exact learned

/-- The chain is made of the answers to its waits. -/
theorem waitForFullChain_follows (eventId : String) (timeoutMs : Option JsNumber) :
    (seeking (InChain eventId timeoutMs)).Follows (waitForFullChain eventId timeoutMs) ⟨[],false⟩
      (Finds (fun answers chain => answers = chain.answers eventId timeoutMs)) := by
  have inChain : ∀ stage ∈ [EventLifecycleStage.emitted,.received,.validated,.persisted],
      InChain eventId timeoutMs ⟨eventId,stage,timeoutMs⟩ := fun stage member => ⟨stage,member,rfl⟩
  unfold waitForFullChain
  simp only [Async.bind_eq]
  apply seeking_call (inChain .emitted (by decide))
  intro emitted
  apply seeking_call (inChain .received (by decide))
  intro received
  apply seeking_call (inChain .validated (by decide))
  intro validated
  apply seeking_call (inChain .persisted (by decide))
  intro persisted
  exact ⟨rfl,rfl⟩

end EventTracker

section tracker
variable {Value : Type} {engine : Engine} {asks : Awaited → Prop} {found : List (Awaited × Json) → Value → Prop}
  {tracker after : Tracker Value}

structure Tracked (engine : Engine) (asks : Awaited → Prop) (found : List (Awaited × Json) → Value → Prop)
    (events : List Event) (tracker : Tracker Value) : Prop where
  kept : Kept engine events tracker.subscriber
  published : ∀ event ∈ events, event.Published
  follows : ∃ view, (seeking asks).Follows tracker.program view (Finds found) ∧
    ∀ answer ∈ view.answers, answer.2 ∈ arrivals events ∧ answer.1.sought.seeks answer.2 = true
  pending : ∀ call, tracker.pending = some call → ∃ awaited next, tracker.program = .await awaited next ∧
    (registrations events)[call]? = some awaited.sought

theorem Tracked.start {program : TrackerProgram Value}
    (follows : (seeking asks).Follows program ⟨[],false⟩ (Finds found)) :
    Tracked engine asks found [] (.start program) where
  kept := .initial
  published _ member := by cases member
  follows := ⟨_,follows,fun _ impossible => by cases impossible⟩
  pending _ impossible := by cases impossible

theorem registered_concat {events : List Event} {event : Event} {call : Nat} {sought : WaitFor}
    (made : (registrations events)[call]? = some sought) :
    (registrations (events ++ [event]))[call]? = some sought := by
  rw [registrations_concat]
  exact (List.getElem?_append_left (List.getElem?_eq_some_iff.mp made).1).trans made

theorem Tracked.subscriber {events : List Event} (tracked : Tracked engine asks found events tracker)
    {event : Event} {next : State} (published : event.Published)
    (taken : State.step engine tracker.subscriber event = some next) :
    Tracked engine asks found (events ++ [event]) { tracker with subscriber := next } where
  kept := tracked.kept.step taken (heeded_of_published tracked.kept.2 tracked.published event)
  published other member := by
    rcases List.mem_append.mp member with old | new
    · exact tracked.published other old
    · exact List.mem_singleton.mp new ▸ published
  follows := by
    obtain ⟨view,follows,answered⟩ := tracked.follows
    refine ⟨view,follows,?_⟩
    intro answer member
    rw [arrivals_concat]
    exact ⟨List.mem_append_left _ (answered answer member).1,(answered answer member).2⟩
  pending call under := by
    obtain ⟨awaited,rest,running,made⟩ := tracked.pending call under
    exact ⟨awaited,rest,running,registered_concat made⟩

/-- The program makes its call. -/
theorem Tracked.calls {events : List Event} (tracked : Tracked engine asks found events tracker)
    {awaited : Awaited} {next : Except Thrown Json → TrackerProgram Value}
    (running : tracker.program = .await awaited next) :
    Tracked engine asks found (events ++ [.waitFor awaited.eventId awaited.stage awaited.timeoutMs])
      { tracker with
        subscriber := tracker.subscriber.callWaitFor awaited.sought
        pending := some tracker.subscriber.calls.length } := by
  have published : Event.Published (.waitFor awaited.eventId awaited.stage awaited.timeoutMs) := trivial
  have called := tracked.subscriber published rfl
  refine ⟨called.kept,called.published,called.follows,?_⟩
  intro call under
  obtain rfl := Option.some.inj under
  refine ⟨awaited,next,running,?_⟩
  rw [registrations_concat,tracked.kept.2.calls]
  exact List.getElem?_concat_length

/-- The program goes on with the settlement of its call. -/
theorem Tracked.resumes {events : List Event} (tracked : Tracked engine asks found events tracker) {call : Nat}
    {awaited : Awaited} {next : Except Thrown Json → TrackerProgram Value} (under : tracker.pending = some call)
    (running : tracker.program = .await awaited next) {outcome : Except Thrown Json}
    (settled : outcome ∈ tracker.subscriber.settlementsOf call) :
    Tracked engine asks found events { tracker with program := next outcome, pending := none } := by
  refine ⟨tracked.kept,tracked.published,?_,fun _ impossible => by cases impossible⟩
  obtain ⟨view,follows,answered⟩ := tracked.follows
  obtain ⟨other,_,same,made⟩ := tracked.pending call under
  obtain ⟨rfl,_⟩ := Async.await.inj (running.symm.trans same)
  rw [running] at follows
  cases outcome with
  | ok json =>
    have resolved := tracked.kept.resolved made settled
    refine ⟨_,follows.2 (.ok json) _ ⟨resolved.2,rfl⟩,?_⟩
    intro answer member
    rcases List.mem_append.mp member with old | new
    · exact answered answer old
    · obtain rfl := List.mem_singleton.mp new
      exact resolved
  | error error => exact ⟨_,follows.2 (.error error) _ rfl,answered⟩

theorem Tracker.step_proceed (taken : tracker.step engine .proceed = some after) :
    ∃ awaited next, tracker.program = .await awaited next ∧
      ((tracker.pending = none ∧ after = { tracker with
          subscriber := tracker.subscriber.callWaitFor awaited.sought
          pending := some tracker.subscriber.calls.length }) ∨
        ∃ call outcome, tracker.pending = some call ∧ outcome ∈ tracker.subscriber.settlementsOf call ∧
          after = { tracker with program := next outcome, pending := none }) := by
  unfold Tracker.step at taken
  split at taken
  next event impossible => cases impossible
  next =>
    split at taken
    next awaited next running idle =>
      exact ⟨awaited,next,running,.inl ⟨idle,(Option.some.inj taken).symm⟩⟩
    next awaited next call running under =>
      split at taken
      next outcome rest settled =>
        refine ⟨awaited,next,running,.inr ⟨call,outcome,under,?_,(Option.some.inj taken).symm⟩⟩
        rw [settled]
        exact List.mem_cons_self
      next => cases taken
    next => cases taken

/-- In a run of a tracker every record it was answered with has arrived, and has been published. -/
theorem tracked_of_reaches {program : TrackerProgram Value}
    (follows : (seeking asks).Follows program ⟨[],false⟩ (Finds found))
    (reached : Machine.Reaches (Tracker.step engine) Tracker.Published (.start program) tracker) :
    ∃ events, Tracked engine asks found events tracker := by
  apply reached.invariant ⟨[],.start follows⟩
  intro tracker action after holds published taken
  obtain ⟨events,tracked⟩ := holds
  cases action with
  | subscriber event =>
    obtain ⟨next,went,rfl⟩ := Option.map_eq_some_iff.mp taken
    exact ⟨_,tracked.subscriber published went⟩
  | proceed =>
    obtain ⟨awaited,next,running,idle | under⟩ := Tracker.step_proceed taken
    · obtain ⟨_,rfl⟩ := idle
      exact ⟨_,tracked.calls running⟩
    · obtain ⟨call,outcome,under,settled,rfl⟩ := under
      exact ⟨events,tracked.resumes under running settled⟩

/-- A call whose record has arrived is settled with one, when it has not been rejected before. -/
theorem Tracked.answered {events : List Event} (tracked : Tracked engine asks found events tracker) {call : Nat}
    {awaited : Awaited} {next : Except Thrown Json → TrackerProgram Value} (under : tracker.pending = some call)
    (running : tracker.program = .await awaited next)
    (unrejected : ∀ error, .error error ∉ tracker.subscriber.settlementsOf call)
    (arrived : ∃ json ∈ tracker.subscriber.records, awaited.sought.seeks json = true) :
    ∃ json, tracker.subscriber.settlementsOf call = [.ok json] := by
  obtain ⟨other,_,same,made⟩ := tracked.pending call under
  obtain ⟨rfl,_⟩ := Async.await.inj (running.symm.trans same)
  obtain ⟨json,member,seeks⟩ := arrived
  rw [tracked.kept.2.records] at member
  have settled := tracked.kept.1.settled call _ made
  cases ended : verdict engine events call awaited.sought with
  | none =>
    have running := running_of_verdict_none ended
    rw [verdict_of_running running] at ended
    have absent := List.find?_eq_none.mp (Option.map_eq_none_iff.mp ended) json member
    exact absurd seeks absent
  | some outcome =>
    rw [ended] at settled
    cases outcome with
    | ok json => exact ⟨json,settled⟩
    | error error =>
      refine absurd ?_ (unrejected error)
      rw [settled]
      exact List.mem_cons_self

/-- A call that has just been made has not been rejected. -/
theorem Tracked.fresh {events : List Event} (tracked : Tracked engine asks found events tracker) {awaited : Awaited}
    {next : Except Thrown Json → TrackerProgram Value} (running : tracker.program = .await awaited next) (error : Thrown) :
    .error error ∉ (tracker.subscriber.callWaitFor awaited.sought).settlementsOf tracker.subscriber.calls.length := by
  have calls := tracked.calls running
  obtain ⟨other,_,same,made⟩ := calls.pending _ rfl
  obtain ⟨rfl,_⟩ := Async.await.inj (running.symm.trans same)
  intro rejected
  have unexpired : events.any (Event.expires tracker.subscriber.calls.length) = false := by
    by_contra expired
    exact Nat.lt_irrefl _ (tracked.kept.2.timeouts _ (by simpa using expired))
  have still : (events ++ [Event.waitFor awaited.eventId awaited.stage awaited.timeoutMs]).any
      (Event.expires tracker.subscriber.calls.length) = false := by
    rw [List.any_append,unexpired]
    rfl
  have settled := calls.kept.1.settled _ _ made
  rw [verdict_of_running still] at settled
  change .error error ∈ (tracker.subscriber.callWaitFor awaited.sought).settlementsOf _ at rejected
  rw [settled,Option.mem_toList,Option.map_eq_some_iff] at rejected
  obtain ⟨json,_,impossible⟩ := rejected
  cases impossible

/-- When the records of all its calls have arrived and none has been rejected, the program only has to
go on. The induction is on the program, so it does not matter where it stands. -/
theorem Tracked.finishes {program : TrackerProgram Value} {events : List Event}
    (tracked : Tracked engine asks found events tracker) (here : tracker.program = program)
    (intime : ¬tracker.TimedOut)
    (arrived : ∀ awaited, asks awaited → ∃ json ∈ tracker.subscriber.records, awaited.sought.seeks json = true) :
    ∃ moves final value events,
      Machine.run (Tracker.step engine) tracker (List.replicate moves .proceed) = some final ∧
      final.program = .resolve value ∧ Tracked engine asks found events final := by
  induction program generalizing tracker events with
  | resolve value => exact ⟨0,tracker,value,events,rfl,here,tracked⟩
  | reject error => exact absurd (.inl ⟨error,here⟩) intime
  | await awaited next ih =>
    obtain ⟨view,follows,_⟩ := tracked.follows
    rw [here] at follows
    obtain ⟨⟨unbroken,asked⟩,continues⟩ := follows
    -- once the call is under way, its record settles it and the rest of the program takes over
    have answered : ∀ {state : Tracker Value} {events : List Event} {call : Nat},
        Tracked engine asks found events state → state.program = .await awaited next → state.pending = some call →
        (∀ error, .error error ∉ state.subscriber.settlementsOf call) →
        (∀ awaited, asks awaited → ∃ json ∈ state.subscriber.records, awaited.sought.seeks json = true) →
        ∃ moves final value events,
          Machine.run (Tracker.step engine) state (List.replicate moves .proceed) = some final ∧
          final.program = .resolve value ∧ Tracked engine asks found events final := by
      intro state events call tracked running under unrejected arrived
      obtain ⟨json,settled⟩ := tracked.answered under running unrejected (arrived awaited asked)
      have among : .ok json ∈ state.subscriber.settlementsOf call := by
        rw [settled]
        exact List.mem_cons_self
      have resumed := tracked.resumes under running among
      have taken : state.step engine .proceed = some { state with program := next (.ok json), pending := none } := by
        simp only [Tracker.step,running,under,settled]
      have seeks : awaited.sought.seeks json = true := by
        obtain ⟨other,_,same,made⟩ := tracked.pending call under
        obtain ⟨rfl,_⟩ := Async.await.inj (running.symm.trans same)
        exact (tracked.kept.resolved made among).2
      have unfailed : ¬Tracker.TimedOut { state with program := next (.ok json), pending := none } := by
        rintro (⟨error,rejected⟩ | ⟨call,error,impossible,_⟩)
        · have rest := continues (.ok json) _ ⟨seeks,rfl⟩
          rw [show next (.ok json) = .reject error from rejected] at rest
          exact Bool.false_ne_true (unbroken.symm.trans rest)
        · cases impossible
      obtain ⟨moves,final,value,after,ran,ended⟩ := ih (.ok json) resumed rfl unfailed arrived
      refine ⟨moves + 1,final,value,after,?_,ended⟩
      rw [List.replicate_succ,Machine.run,taken]
      exact ran
    cases under : tracker.pending with
    | some call =>
      refine answered tracked here under ?_ arrived
      intro error rejected
      exact intime (.inr ⟨call,error,under,rejected⟩)
    | none =>
      have calls := tracked.calls here
      have taken : tracker.step engine .proceed = some { tracker with
          subscriber := tracker.subscriber.callWaitFor awaited.sought
          pending := some tracker.subscriber.calls.length } := by
        simp only [Tracker.step,here,under]
      have kept : ∀ other, asks other → ∃ json ∈ (tracker.subscriber.callWaitFor awaited.sought).records,
          other.sought.seeks json = true := by
        intro other asked
        obtain ⟨json,member,seeks⟩ := arrived other asked
        rw [tracked.kept.2.records] at member
        refine ⟨json,?_,seeks⟩
        have records := calls.kept.2.records
        rw [show (tracker.subscriber.callWaitFor awaited.sought).records = _ from records,arrivals_concat]
        exact List.mem_append_left _ member
      obtain ⟨moves,final,value,after,ran,ended⟩ := answered calls here rfl (tracked.fresh here) kept
      refine ⟨moves + 1,final,value,after,?_,ended⟩
      rw [List.replicate_succ,Machine.run,taken]
      exact ran

/-- A record that has answered a wait has been received, and a publisher has emitted it. -/
theorem Tracked.received {events : List Event} (tracked : Tracked engine asks found events tracker) {eventId : String}
    {stage : EventLifecycleStage} {timeoutMs : Option JsNumber} {json : Json} (arrived : json ∈ arrivals events)
    (seeks : (Awaited.sought ⟨eventId,stage,timeoutMs⟩).seeks json = true) :
    tracker.subscriber.Received eventId stage json := by
  refine ⟨tracked.kept.2.records ▸ arrived,?_⟩
  obtain ⟨record,service,now,rfl⟩ := mem_arrivals_published tracked.published arrived
  exact ⟨record,service,now,rfl,seeks_full.mp seeks⟩

end tracker

theorem Tracked.chain {engine : Engine} {eventId : String} {timeoutMs : Option JsNumber} {asks : Awaited → Prop}
    {events : List Event} {tracker : Tracker FullChain} {chain : FullChain}
    (tracked : Tracked engine asks (fun answers chain => answers = chain.answers eventId timeoutMs) events tracker)
    (ended : tracker.program = .resolve chain) : chain.Of tracker.subscriber eventId := by
  obtain ⟨view,follows,answered⟩ := tracked.follows
  rw [ended] at follows
  have same : view.answers = chain.answers eventId timeoutMs := follows.2
  rw [same] at answered
  have received : ∀ stage json, (⟨eventId,stage,timeoutMs⟩,json) ∈ chain.answers eventId timeoutMs →
      tracker.subscriber.Received eventId stage json :=
    fun stage json member => tracked.received (answered _ member).1 (answered _ member).2
  constructor <;> exact received _ _ (by simp [FullChain.answers])

/-- The full chain of an event is found in whatever order its four records arrive, among whatever
other records: the tracker resolves with a published record of each stage that has arrived, and as long
as none of its waits has timed out it only has to go on once the four have arrived. -/
theorem full_chain_any_order (engine : Engine) (eventId : String) (timeoutMs : Option JsNumber)
    {tracker : Tracker FullChain} (reached : Machine.Reaches (Tracker.step engine) Tracker.Published
      (.start (EventTracker.waitForFullChain eventId timeoutMs)) tracker) :
    (∀ chain, tracker.program = .resolve chain → chain.Of tracker.subscriber eventId) ∧
    (¬tracker.TimedOut →
      (∀ stage ∈ [EventLifecycleStage.emitted,.received,.validated,.persisted],
        ∃ json ∈ tracker.subscriber.records, (WaitFor.of eventId stage timeoutMs).seeks json = true) →
      ∃ moves final chain,
        Machine.run (Tracker.step engine) tracker (List.replicate moves .proceed) = some final ∧
        final.program = .resolve chain ∧ chain.Of final.subscriber eventId) := by
  obtain ⟨events,tracked⟩ := tracked_of_reaches (EventTracker.waitForFullChain_follows eventId timeoutMs) reached
  refine ⟨fun chain ended => tracked.chain ended,?_⟩
  intro intime arrived
  have waited : ∀ awaited, InChain eventId timeoutMs awaited →
      ∃ json ∈ tracker.subscriber.records, awaited.sought.seeks json = true := by
    intro awaited asked
    obtain ⟨stage,member,rfl⟩ := asked
    exact arrived stage member
  obtain ⟨moves,final,chain,events,ran,ended,tracked⟩ := tracked.finishes rfl intime waited
  exact ⟨moves,final,chain,ran,ended,tracked.chain ended⟩

def sampleChain : List TrackerEvent :=
  [EventLifecycleStage.persisted,.received,.validated,.emitted].map (fun stage =>
    .subscriber (.message (some (.stringify
      (EventLifecycleRecord.full ⟨stage,"CreateMessageEvent.v1","order","c-1",none⟩ "messaging" 0)))))

theorem sampleChain_found : ∃ tracker : Tracker FullChain,
    Machine.run (Tracker.step sampleEngine) (.start (EventTracker.waitForFullChain "order" none))
      (.proceed :: sampleChain) = some tracker ∧
    ∃ moves final chain,
      Machine.run (Tracker.step sampleEngine) tracker (List.replicate moves .proceed) = some final ∧
      final.program = .resolve chain ∧ chain.Of final.subscriber "order" := by
  let ran := Machine.run (Tracker.step sampleEngine) (.start (EventTracker.waitForFullChain "order" none))
    (.proceed :: sampleChain)
  let tracker := ran.get (by decide)
  have same : ran = some tracker := (Option.some_get _).symm
  have published : Machine.Permitted (Tracker.step sampleEngine) Tracker.Published
      (.start (EventTracker.waitForFullChain "order" none)) (.proceed :: sampleChain) := by
    refine ⟨trivial,fun _ _ => ⟨⟨_,_,_,rfl⟩,fun _ _ => ⟨⟨_,_,_,rfl⟩,fun _ _ => ⟨⟨_,_,_,rfl⟩,fun _ _ =>
      ⟨⟨_,_,_,rfl⟩,fun _ _ => trivial⟩⟩⟩⟩⟩
  have reached := Machine.run_reaches same published
  refine ⟨tracker,same,(full_chain_any_order sampleEngine "order" none reached).2 ?_ ?_⟩
  · rintro (⟨error,rejected⟩ | ⟨call,error,under,rejected⟩)
    · cases rejected
    · obtain rfl : call = 0 := (Option.some.inj under).symm
      have settled : tracker.subscriber.settlementsOf 0 = [.ok _] := rfl
      rw [settled] at rejected
      cases List.mem_singleton.mp rejected
  · intro stage member
    cases stage with
    | rejected => exact absurd member (by decide)
    | emitted | received | validated | persisted =>
      apply List.any_eq_true.mp
      decide

end MessagingPlatform.Lifecycle
