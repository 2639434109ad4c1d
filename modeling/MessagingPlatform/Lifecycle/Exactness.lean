import MessagingPlatform.Lifecycle.Waits

/-! The waits of a subscriber end as they should for as long as no record that is `null` is read. -/
namespace MessagingPlatform.Lifecycle

section consistency
variable {events : List Event} {event : Event} {state after : State}

/-- What is new after an event is told by the event. -/
theorem Consistent.concat (consistent : Consistent events state)
    (records : after.records = state.records ++ event.arrival.toList)
    (calls : after.calls = state.calls ++ event.registration.toList)
    (waiters : ∀ waiter ∈ after.waiters, waiter ∈ state.waiters ∨
      after.calls[waiter.call]? = some waiter.sought ∧ waiter.timer = some waiter.call)
    (settlements : ∀ settlement ∈ after.settlements,
      settlement ∈ state.settlements ∨ settlement.1 < after.calls.length)
    (timeouts : ∀ number, event.expires number = true → number < state.calls.length) :
    Consistent (events ++ [event]) after := by
  have longer : state.calls.length ≤ after.calls.length := by
    rw [calls,List.length_append]
    exact Nat.le_add_right _ _
  constructor
  · rw [records,consistent.records,arrivals_concat]
  · rw [calls,consistent.calls,registrations_concat]
  · intro waiter member
    rcases waiters waiter member with old | new
    · obtain ⟨made,timed⟩ := consistent.waiters waiter old
      refine ⟨?_,timed⟩
      rw [calls,List.getElem?_append_left (List.getElem?_eq_some_iff.mp made).1]
      exact made
    · exact new
  · intro settlement member
    rcases settlements settlement member with old | new
    · exact Nat.lt_of_lt_of_le (consistent.settlements settlement old) longer
    · exact new
  · intro number expired
    rw [List.any_append,Bool.or_eq_true,List.any_cons,List.any_nil,Bool.or_false] at expired
    apply Nat.lt_of_lt_of_le _ longer
    exact expired.elim (consistent.timeouts number) (timeouts number)

theorem Consistent.fresh (consistent : Consistent events state) :
    ∀ waiter ∈ state.waiters, waiter.call ≠ state.calls.length := by
  intro waiter member
  exact Nat.ne_of_lt (List.getElem?_eq_some_iff.mp (consistent.waiters waiter member).1).1

theorem Consistent.hear (consistent : Consistent events state) (record : Json) :
    Consistent (events ++ [.message (some (.json record))]) (state.hear record) := by
  refine consistent.concat rfl (List.append_nil _).symm ?_ ?_ (fun _ expired => by cases expired)
  · intro waiter member
    exact .inl (List.mem_filter.mp member).1
  · intro settlement member
    refine (List.mem_append.mp member).imp id (fun answered => ?_)
    obtain ⟨waiter,waits,rfl⟩ := List.mem_map.mp answered
    have waits := (List.mem_filter.mp (List.mem_reverse.mp waits)).1
    exact (List.getElem?_eq_some_iff.mp (consistent.waiters waiter waits).1).1

theorem Consistent.acks (consistent : Consistent events state) {msg : Option Body}
    (brings : (Event.message msg).arrival = none) (acks : Nat) :
    Consistent (events ++ [.message msg]) { state with acks := acks } := by
  refine consistent.concat ?_ (List.append_nil _).symm (fun _ => .inl) (fun _ => .inl)
    (fun _ expired => by cases expired)
  rw [brings]
  exact (List.append_nil _).symm

variable {eventId : String} {stage : EventLifecycleStage} {timeoutMs : Option JsNumber}

theorem Consistent.answer (consistent : Consistent events state) (outcome : Except Thrown Json) :
    Consistent (events ++ [.waitFor eventId stage timeoutMs])
      (state.answer (.of eventId stage timeoutMs) outcome) := by
  refine consistent.concat (List.append_nil _).symm rfl (fun _ => .inl) ?_ (fun _ expired => by cases expired)
  intro settlement member
  refine (List.mem_append.mp member).imp id (fun last => ?_)
  rw [List.mem_singleton.mp last]
  change state.calls.length < (state.calls ++ [_]).length
  rw [List.length_append]
  exact Nat.lt_succ_self _

theorem Consistent.enlist (consistent : Consistent events state) :
    Consistent (events ++ [.waitFor eventId stage timeoutMs]) (state.enlist (.of eventId stage timeoutMs)) := by
  refine consistent.concat (List.append_nil _).symm rfl ?_ (fun _ => .inl) (fun _ expired => by cases expired)
  intro waiter member
  refine (List.mem_append.mp member).imp id (fun last => ?_)
  rw [List.mem_singleton.mp last]
  exact ⟨List.getElem?_concat_length,rfl⟩

theorem Consistent.dismiss (consistent : Consistent events state) {number : Nat} {sought : WaitFor}
    (made : state.calls[number]? = some sought) (outcome : Except Thrown Json) :
    Consistent (events ++ [.timeout number]) ((state.dismiss number).settle number outcome) := by
  have bound := (List.getElem?_eq_some_iff.mp made).1
  refine consistent.concat (List.append_nil _).symm (List.append_nil _).symm ?_ ?_ ?_
  · intro waiter member
    exact .inl (List.mem_of_mem_eraseP member)
  · intro settlement member
    refine (List.mem_append.mp member).imp id (fun last => ?_)
    rw [List.mem_singleton.mp last]
    exact bound
  · intro other same
    rw [← beq_iff_eq.mp same]
    exact bound

end consistency

section calls
variable {engine : Engine} {events : List Event} {state : State} {eventId : String}
  {stage : EventLifecycleStage} {timeoutMs : Option JsNumber}

theorem Exact.callWaitFor (holds : Exact engine events state) (consistent : Consistent events state)
    (heeded : Heeded state (.waitFor eventId stage timeoutMs)) :
    Exact engine (events ++ [.waitFor eventId stage timeoutMs])
        (state.callWaitFor (.of eventId stage timeoutMs)) ∧
      Consistent (events ++ [.waitFor eventId stage timeoutMs])
        (state.callWaitFor (.of eventId stage timeoutMs)) := by
  let sought := WaitFor.of eventId stage timeoutMs
  have ends : verdict engine events state.calls.length sought = _ := consistent.verdict_new sought
  rw [State.callWaitFor_eq heeded consistent.fresh]
  cases found : state.records.find? sought.seeks with
  | some record =>
    rw [found,Option.map_some] at ends
    refine ⟨.registers rfl consistent rfl (fun _ => rfl) holds ?_ ?_ ?_,consistent.answer _⟩
    · intro number
      rw [ends]
      exact settlementsOf_settle
    · rw [ends,if_neg (Option.some_ne_none _)]
      exact (List.append_nil _).symm
    · rw [ends,if_neg (Option.some_ne_none _)]
      exact (List.append_nil _).symm
  | none =>
    rw [found,Option.map_none] at ends
    refine ⟨.registers rfl consistent rfl (fun _ => rfl) holds ?_ ?_ ?_,consistent.enlist⟩
    · intro number
      rw [ends]
      exact ((congrArg (_ ++ ·) (ite_self [])).trans (List.append_nil _)).symm
    · rw [ends,if_pos rfl]
      exact List.map_append
    · rw [ends,if_pos rfl]
      rfl

/-- A `null` in front of the record makes the call reject at once. -/
theorem Exact.not_callWaitFor (consistent : Consistent events state)
    (unheeded : ¬Heeded state (.waitFor eventId stage timeoutMs)) :
    ¬Exact engine (events ++ [.waitFor eventId stage timeoutMs])
      (state.callWaitFor (.of eventId stage timeoutMs)) := by
  intro wrong
  let sought := WaitFor.of eventId stage timeoutMs
  have made : (registrations (events ++ [.waitFor eventId stage timeoutMs]))[state.calls.length]? = some sought :=
    (consistent.registered_iff rfl).mpr (.inr ⟨rfl,rfl⟩)
  have ended := wrong.settled state.calls.length sought made
  have unsettled : State.settlementsOf { state with calls := state.calls ++ [sought] } state.calls.length = [] :=
    consistent.unsettled
  rw [State.callWaitFor_null (not_not.mp unheeded),State.answer,settlementsOf_settle,unsettled,if_pos rfl,
    verdict_same rfl rfl,consistent.verdict_new] at ended
  cases found : state.records.find? sought.seeks with
  | none =>
    rw [found] at ended
    cases ended
  | some record =>
    rw [found] at ended
    cases ended

end calls

section timeouts
variable {engine : Engine} {events : List Event} {state : State} {number : Nat} {sought : WaitFor}

theorem eraseP_eq_filter {waiters : List Waiter} (distinct : (waiters.map Waiter.call).Nodup) (number : Nat) :
    waiters.eraseP (fun waiter => waiter.call == number) = waiters.filter (fun waiter => waiter.call != number) := by
  induction waiters with
  | nil => rfl
  | cons first rest ih =>
    obtain ⟨fresh,distinct⟩ := List.nodup_cons.mp distinct
    by_cases same : first.call = number
    · have others : ∀ waiter ∈ rest, (waiter.call != number) = true := by
        intro waiter member
        refine bne_iff_ne.mpr (fun again => fresh ?_)
        exact List.mem_map.mpr ⟨waiter,member,again.trans same.symm⟩
      rw [List.eraseP_cons_of_pos (by simp [same]),List.filter_cons_of_neg (by simp [same]),
        List.filter_eq_self.mpr others]
    · rw [List.eraseP_cons_of_neg (by simp [same]),List.filter_cons_of_pos (by simp [same]),ih distinct]

/-- When the timer of a wait fires, it has neither been settled nor been withdrawn. -/
theorem Exact.verdict_armed (holds : Exact engine events state) (consistent : Consistent events state)
    (made : state.calls[number]? = some sought) (armed : number ∈ state.timers) :
    verdict engine events number sought = none ∧ verdict engine (events ++ [.timeout number]) number sought =
      some (.error (sought.timedOut engine (state.records.map stagesOf))) := by
  rw [consistent.calls] at made
  have unsettled := (holds.waits_iff made).mp ((holds.armed number).mp armed)
  refine ⟨unsettled,?_⟩
  rw [verdict_timeout (running_of_verdict_none unsettled),unsettled,consistent.records]
  rfl

theorem Exact.onTimeout (holds : Exact engine events state) (consistent : Consistent events state)
    (made : state.calls[number]? = some sought) (armed : number ∈ state.timers) :
    Exact engine (events ++ [.timeout number])
      ((state.dismiss number).settle number (.error (sought.timedOut engine (state.records.map stagesOf)))) := by
  obtain ⟨unsettled,ended⟩ := holds.verdict_armed consistent made armed
  have settlements : ∀ other, ((state.dismiss number).settle number
      (.error (sought.timedOut engine (state.records.map stagesOf)))).settlementsOf other =
      state.settlementsOf other ++ _ := fun other => settlementsOf_settle
  have waiters := eraseP_eq_filter holds.distinct number
  have registered : registrations (events ++ [.timeout number]) = registrations events :=
    registrations_same events rfl
  constructor
  · intro other wanted found
    rw [registered] at found
    rw [settlements,holds.settled other wanted found]
    by_cases same : number = other
    · subst same
      rw [consistent.calls,found] at made
      obtain rfl := Option.some.inj made
      rw [unsettled,ended,if_pos rfl]
      rfl
    · have own : (Event.timeout number).expires other = false := beq_false_of_ne same
      rw [if_neg same,List.append_nil,verdict_same own rfl]
  · rw [registered]
    refine holds.waiting_filter waiters ?_ ?_
    · intro waiter member
      have waits : waiter.call ∈ state.waiters.map Waiter.call := List.mem_map.mpr ⟨waiter,member,rfl⟩
      rw [holds.waiting,List.mem_filter,List.isEmpty_iff] at waits
      rw [settlements,waits.2,List.nil_append]
      by_cases same : waiter.call = number
      · rw [if_pos same.symm]
        simp [same]
      · rw [if_neg (Ne.symm same)]
        simp [same]
    · intro other ended
      rw [settlements] at ended
      exact (List.append_eq_nil_iff.mp ended).1
  · refine holds.armed_filter waiters (fun other => ?_)
    change other ∈ state.timers.filter _ ↔ _
    rw [List.mem_filter]
    refine and_congr_right (fun present => ?_)
    obtain ⟨waiter,member,rfl⟩ := List.mem_map.mp ((holds.armed other).mp present)
    constructor
    · intro kept another _ same
      rw [same]
      exact bne_iff_ne.mpr (of_decide_eq_true kept)
    · intro stays
      exact decide_eq_true (bne_iff_ne.mp (stays waiter member rfl))

/-- The callback stops before it rejects; the wait has been withdrawn and its timer has fired. -/
theorem Exact.not_onTimeout (holds : Exact engine events state) (consistent : Consistent events state)
    (made : state.calls[number]? = some sought) (armed : number ∈ state.timers) {after : State}
    (settlements : after.settlements = state.settlements) : ¬Exact engine (events ++ [.timeout number]) after := by
  intro wrong
  obtain ⟨unsettled,ended⟩ := holds.verdict_armed consistent made armed
  rw [consistent.calls] at made
  have before := holds.settled number sought made
  have registered : registrations (events ++ [.timeout number]) = registrations events :=
    registrations_same events rfl
  rw [← registered] at made
  have claimed := wrong.settled number sought made
  rw [settlementsOf_same settlements,before,unsettled,ended] at claimed
  cases claimed

end timeouts

instance decidableHeeded (state : State) : (event : Event) → Decidable (Heeded state event)
  | .message _ => .isTrue trivial
  | .waitFor eventId stage timeoutMs => inferInstanceAs (Decidable (.null ∉
      state.records.takeWhile (fun record => !(WaitFor.of eventId stage timeoutMs).seeks record)))
  | .timeout _ => inferInstanceAs (Decidable (.null ∉ state.records))

section runs
variable {engine : Engine} {events : List Event} {event : Event} {state after : State}

def Kept (engine : Engine) (events : List Event) (state : State) : Prop :=
  Exact engine events state ∧ Consistent events state

theorem Kept.initial : Kept engine [] .initial := by
  refine ⟨⟨?_,rfl,fun _ => Iff.rfl⟩,⟨rfl,rfl,?_,?_,?_⟩⟩
  · intro number sought made
    cases made
  · intro waiter member
    cases member
  · intro settlement member
    cases member
  · intro number expired
    cases expired

theorem step_timeout {number : Nat} (taken : State.step engine state (.timeout number) = some after) :
    ∃ sought, state.calls[number]? = some sought ∧ number ∈ state.timers ∧
      after = State.perform { state with timers := state.timers.filter (· ≠ number) }
        (EventLifecycleSubscriber.onTimeout engine number sought) := by
  obtain ⟨sought,made,taken⟩ := Option.bind_eq_some_iff.mp taken
  obtain ⟨armed,same⟩ := Option.ite_none_right_eq_some.mp taken
  exact ⟨sought,made,armed,(Option.some.inj same).symm⟩

theorem Kept.message (kept : Kept engine events state) (msg : Option Body) :
    Kept engine (events ++ [.message msg]) (state.perform (EventLifecycleSubscriber.consume msg)) := by
  obtain ⟨holds,consistent⟩ := kept
  match msg with
  | none => exact ⟨holds.idle rfl rfl (fun _ => rfl) rfl rfl rfl,consistent.acks rfl _⟩
  | some (.text _) => exact ⟨holds.idle rfl rfl (fun _ => rfl) rfl rfl rfl,consistent.acks rfl _⟩
  | some (.json record) =>
    unfold State.perform
    rw [EventLifecycleSubscriber.consume_json]
    exact ⟨holds.hear consistent record,consistent.hear record⟩

theorem Kept.step (kept : Kept engine events state) (taken : State.step engine state event = some after)
    (heeded : Heeded state event) : Kept engine (events ++ [event]) after := by
  cases event with
  | message msg =>
    obtain rfl := Option.some.inj taken
    exact kept.message msg
  | waitFor eventId stage timeoutMs =>
    obtain rfl := Option.some.inj taken
    exact kept.1.callWaitFor kept.2 heeded
  | timeout number =>
    obtain ⟨sought,made,armed,rfl⟩ := step_timeout taken
    rw [State.perform_onTimeout engine number heeded]
    exact ⟨kept.1.onTimeout kept.2 made armed,kept.2.dismiss made _⟩

theorem Kept.broken (kept : Kept engine events state) (taken : State.step engine state event = some after)
    (unheeded : ¬Heeded state event) : ¬Exact engine (events ++ [event]) after := by
  cases event with
  | message msg => exact absurd trivial unheeded
  | waitFor eventId stage timeoutMs =>
    obtain rfl := Option.some.inj taken
    exact Exact.not_callWaitFor kept.2 unheeded
  | timeout number =>
    obtain ⟨sought,made,armed,rfl⟩ := step_timeout taken
    obtain ⟨error,stopped⟩ := State.perform_onTimeout_null engine number (not_not.mp unheeded)
    rw [stopped]
    exact kept.1.not_onTimeout kept.2 made armed rfl

end runs

/-- All along a run every wait ends as it is to end exactly when no `null` is read in the run. How they
are to end does not depend on the bodies that tell of no event, but for the text of a timeout. -/
theorem waits_exact_iff (engine : Engine) (events : List Event) (state : State)
    (ran : Machine.run (State.step engine) .initial events = some state) :
    (Machine.Throughout (State.step engine) (Exact engine) .initial events ↔
      Machine.Permitted (State.step engine) Heeded .initial events) ∧
    ∀ number sought, (verdict engine events number sought).map Except.toOption =
      (verdict engine (events.filter Event.tells) number sought).map Except.toOption := by
  refine ⟨?_,fun number sought => verdict_tells engine events number sought⟩
  obtain ⟨same,-⟩ := Machine.throughout_iff (fun _ _ kept => kept.1) Kept.initial
    (fun _ _ _ _ kept taken heeded => kept.step taken heeded)
    (fun _ _ _ _ kept taken unheeded => kept.broken taken unheeded) ran
  exact same

def sampleEngine : Engine := ⟨fun _ => .nan,fun _ => ""⟩

def sampleRecord (eventId : String) (stage : EventLifecycleStage) : Event :=
  .message (some (.json (.obj [("eventId",.str eventId),("stage",.str stage.name)])))

def sampleRun : List Event := [.message (some (.text "no record")),sampleRecord "order" .received,
  .waitFor "order" .received none,.waitFor "order" .persisted none,.waitFor "order" .rejected (some (.ofNat 500)),
  sampleRecord "order" .validated,.timeout 2,sampleRecord "order" .persisted]

theorem sampleRun_exact : ∃ state, Machine.run (State.step sampleEngine) .initial sampleRun = some state ∧
    Machine.Throughout (State.step sampleEngine) (Exact sampleEngine) .initial sampleRun := by
  let ran := Machine.run (State.step sampleEngine) .initial sampleRun
  let state := ran.get (by decide)
  have same : ran = some state := (Option.some_get _).symm
  exact ⟨state,same,(waits_exact_iff sampleEngine sampleRun state same).1.mpr (by decide)⟩

def nullBody : List Event := [.message (some (.json .null)),.waitFor "order" .received none]

theorem nullBody_rejects : ¬ ∀ (engine : Engine) events state,
    Machine.run (State.step engine) .initial events = some state →
      Machine.Throughout (State.step engine) (Exact engine) .initial events := by
  intro exactly
  have every := exactly sampleEngine nullBody _ rfl nullBody (List.prefix_refl _) _ rfl
  have ended := every.settled 0 (.of "order" .received none) rfl
  exact absurd (congrArg List.length ended) (by decide)


end MessagingPlatform.Lifecycle
