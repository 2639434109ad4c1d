import Mathlib.Data.List.Nodup
import MessagingPlatform.Lifecycle.Callbacks

/-! How the waits of a subscriber are to end, said of the events of a run alone, and when they do. -/
namespace MessagingPlatform.Lifecycle

def Event.arrival : Event → Option Json
  | .message (some content) => content.parse
  | _ => none

def Event.registration : Event → Option WaitFor
  | .waitFor eventId stage timeoutMs => some (.of eventId stage timeoutMs)
  | _ => none

def Event.expires (number : Nat) : Event → Bool
  | .timeout other => other == number
  | _ => false

def arrivals (events : List Event) : List Json := events.filterMap Event.arrival

def registrations (events : List Event) : List WaitFor := events.filterMap Event.registration

/-- A body without an `eventId` or a `stage` tells of no event. -/
def Event.tells : Event → Bool
  | .message (some (.json record)) =>
      match record.get? "eventId", record.get? "stage" with
      | some (.str _), some (.str _) => true
      | _, _ => false
  | .message _ => false
  | _ => true

def inTime (number : Nat) (events : List Event) : List Event :=
  events.takeWhile (fun event => !event.expires number)

/-- A wait ends with the first record that it seeks, of all that arrive before its timeout, and without
one at its timeout. -/
def verdict (engine : Engine) (events : List Event) (number : Nat) (sought : WaitFor) :
    Option (Except Thrown Json) :=
  match (arrivals (inTime number events)).find? sought.seeks with
  | some record => some (.ok record)
  | none =>
      if events.any (Event.expires number) then
        some (.error (sought.timedOut engine ((arrivals (inTime number events)).map stagesOf)))
      else none

/-- Every wait has been settled as it is to end, and not twice. The waiters are those that have not
been settled, and their timers have not fired. -/
structure Exact (engine : Engine) (events : List Event) (state : State) : Prop where
  settled : ∀ number sought, (registrations events)[number]? = some sought →
    state.settlementsOf number = (verdict engine events number sought).toList
  waiting : state.waiters.map Waiter.call =
    (List.range (registrations events).length).filter (fun number => (state.settlementsOf number).isEmpty)
  armed : ∀ number, number ∈ state.timers ↔ number ∈ state.waiters.map Waiter.call

/-- No record that is `null` is read: none stands in front of the first one that a new wait seeks, and
there is none at a timeout. -/
def Heeded (state : State) : Event → Prop
  | .message _ => True
  | .waitFor eventId stage timeoutMs =>
      .null ∉ state.records.takeWhile (fun record => !(WaitFor.of eventId stage timeoutMs).seeks record)
  | .timeout _ => .null ∉ state.records

section verdicts
variable {engine : Engine} {events : List Event} {event : Event} {number : Nat} {sought : WaitFor}

theorem arrivals_concat (events : List Event) (event : Event) :
    arrivals (events ++ [event]) = arrivals events ++ event.arrival.toList := by
  unfold arrivals
  rw [List.filterMap_append]
  cases found : event.arrival <;> simp [found]

theorem registrations_concat (events : List Event) (event : Event) :
    registrations (events ++ [event]) = registrations events ++ event.registration.toList := by
  unfold registrations
  rw [List.filterMap_append]
  cases found : event.registration <;> simp [found]

theorem registrations_same (events : List Event) (asks : event.registration = none) :
    registrations (events ++ [event]) = registrations events := by
  rw [registrations_concat,asks]
  exact List.append_nil _

theorem inTime_of_running (running : events.any (Event.expires number) = false) (later : List Event) :
    inTime number (events ++ later) = events ++ inTime number later := by
  refine List.takeWhile_append_of_pos (fun event member => ?_)
  rw [List.any_eq_false.mp running event member |> Bool.eq_false_iff.mpr]
  rfl

theorem inTime_of_expired (expired : events.any (Event.expires number) = true) (later : List Event) :
    inTime number (events ++ later) = inTime number events := by
  induction events with
  | nil => cases expired
  | cons first rest ih =>
    unfold inTime at ih ⊢
    rw [List.cons_append,List.takeWhile_cons,List.takeWhile_cons]
    cases now : first.expires number with
    | true => rfl
    | false =>
      rw [List.any_cons,now,Bool.false_or] at expired
      rw [Bool.not_false,if_pos rfl,if_pos rfl,ih expired]

/-- As long as its timer runs, a wait ends with the first record that it seeks. -/
theorem verdict_of_running (running : events.any (Event.expires number) = false) :
    verdict engine events number sought = ((arrivals events).find? sought.seeks).map .ok := by
  have whole : inTime number events = events := by
    have split := inTime_of_running running []
    rw [List.append_nil] at split
    exact split.trans (List.append_nil events)
  unfold verdict
  rw [whole,running]
  cases (arrivals events).find? sought.seeks <;> rfl

theorem verdict_of_expired (expired : events.any (Event.expires number) = true) (event : Event) :
    verdict engine (events ++ [event]) number sought = verdict engine events number sought := by
  unfold verdict
  rw [inTime_of_expired expired,List.any_append,expired,Bool.true_or]

theorem verdict_isSome (engine : Engine) (sought : WaitFor) (expired : events.any (Event.expires number) = true) :
    (verdict engine events number sought).isSome := by
  unfold verdict
  rw [if_pos expired]
  cases (arrivals (inTime number events)).find? sought.seeks <;> rfl

theorem running_of_verdict_none (unsettled : verdict engine events number sought = none) :
    events.any (Event.expires number) = false := by
  cases expired : events.any (Event.expires number) with
  | false => rfl
  | true =>
    have settled := verdict_isSome engine sought expired
    rw [unsettled] at settled
    cases settled

/-- What happens besides its own timeout settles a wait only with a record that it seeks. -/
theorem verdict_concat (other : event.expires number = false) :
    verdict engine (events ++ [event]) number sought =
      (verdict engine events number sought).or ((event.arrival.toList.find? sought.seeks).map .ok) := by
  cases expired : events.any (Event.expires number) with
  | true =>
    obtain ⟨outcome,ended⟩ := Option.isSome_iff_exists.mp (verdict_isSome engine sought expired)
    rw [verdict_of_expired expired,ended,Option.some_or]
  | false =>
    have running : (events ++ [event]).any (Event.expires number) = false := by
      rw [List.any_append,expired,List.any_cons,other]
      rfl
    rw [verdict_of_running running,verdict_of_running expired,arrivals_concat,List.find?_append,
      Option.map_or]

theorem verdict_same (other : event.expires number = false) (brings : event.arrival = none) :
    verdict engine (events ++ [event]) number sought = verdict engine events number sought := by
  rw [verdict_concat other,brings]
  exact Option.or_none

theorem verdict_timeout (running : events.any (Event.expires number) = false) :
    verdict engine (events ++ [.timeout number]) number sought = (verdict engine events number sought).or
      (some (.error (sought.timedOut engine ((arrivals events).map stagesOf)))) := by
  have whole : inTime number (events ++ [.timeout number]) = events := by
    rw [inTime_of_running running]
    simp [inTime,Event.expires]
  have expired : (events ++ [Event.timeout number]).any (Event.expires number) = true := by
    rw [List.any_append,running]
    simp [Event.expires]
  rw [verdict_of_running running]
  unfold verdict
  rw [whole,if_pos expired]
  cases (arrivals events).find? sought.seeks <;> rfl

theorem tells_of_seeks {record : Json} (seeks : sought.seeks record = true) :
    (Event.message (some (.json record))).tells = true := by
  obtain ⟨eventId,stage⟩ := Bool.and_eq_true_iff.mp seeks
  have text : ∀ {value name}, strictEquals value name = true → value = some (.str name) := by
    intro value name equal
    unfold strictEquals at equal
    split at equal
    · rw [beq_iff_eq.mp equal]
    · cases equal
  unfold Event.tells
  dsimp only
  rw [text eventId,text stage]

theorem tells_of_expires (expires : event.expires number = true) : event.tells = true := by
  cases event with
  | timeout => rfl
  | message | waitFor => cases expires

theorem inTime_tells (events : List Event) :
    inTime number (events.filter Event.tells) = (inTime number events).filter Event.tells := by
  induction events with
  | nil => rfl
  | cons first rest ih =>
    unfold inTime at ih ⊢
    rw [List.takeWhile_cons]
    cases now : first.expires number with
    | true =>
      rw [List.filter_cons_of_pos (tells_of_expires now),List.takeWhile_cons,now]
      rfl
    | false =>
      rw [Bool.not_false,if_pos rfl]
      cases tells : first.tells with
      | true =>
        rw [List.filter_cons_of_pos tells,List.filter_cons_of_pos tells,List.takeWhile_cons,now,ih]
        rfl
      | false =>
        have dropped : ¬first.tells = true := Bool.eq_false_iff.mp tells
        rw [List.filter_cons_of_neg dropped,List.filter_cons_of_neg dropped,ih]

theorem and_tells {read : Event → Bool} (told : ∀ event, read event = true → event.tells = true) :
    (fun event => event.tells && read event) = read :=
  funext (fun event => Bool.and_eq_right_iff_imp.mpr (told event))

theorem find?_tells (sought : WaitFor) (events : List Event) :
    (arrivals (events.filter Event.tells)).find? sought.seeks = (arrivals events).find? sought.seeks := by
  have told : ∀ event : Event, event.arrival.any sought.seeks = true → event.tells = true := by
    intro event seeks
    match event with
    | .message (some (.json _)) => exact tells_of_seeks seeks
    | .message none | .message (some (.text _)) | .waitFor _ _ _ | .timeout _ => cases seeks
  unfold arrivals
  rw [List.find?_filterMap,List.find?_filterMap,List.find?_filter]
  simp only [Bool.decide_and,Bool.decide_eq_true,and_tells told]

/-- A body that tells of no event ends no wait. -/
theorem verdict_tells (engine : Engine) (events : List Event) (number : Nat) (sought : WaitFor) :
    (verdict engine events number sought).map Except.toOption =
      (verdict engine (events.filter Event.tells) number sought).map Except.toOption := by
  unfold verdict
  rw [inTime_tells,find?_tells,List.any_filter,and_tells (fun _ => tells_of_expires)]
  cases (arrivals (inTime number events)).find? sought.seeks with
  | some => rfl
  | none => cases events.any (Event.expires number) <;> rfl

end verdicts

structure Consistent (events : List Event) (state : State) : Prop where
  records : state.records = arrivals events
  calls : state.calls = registrations events
  waiters : ∀ waiter ∈ state.waiters, state.calls[waiter.call]? = some waiter.sought ∧
    waiter.timer = some waiter.call
  settlements : ∀ settlement ∈ state.settlements, settlement.1 < state.calls.length
  timeouts : ∀ number, events.any (Event.expires number) = true → number < state.calls.length

section settlements
variable {state after : State} {number other : Nat} {outcome : Except Thrown Json}

theorem settlementsOf_same (same : after.settlements = state.settlements) (number : Nat) :
    after.settlementsOf number = state.settlementsOf number := by
  unfold State.settlementsOf
  rw [same]

theorem settlementsOf_settle : (state.settle number outcome).settlementsOf other =
    state.settlementsOf other ++ if number = other then [outcome] else [] := by
  unfold State.settlementsOf State.settle
  rw [List.filterMap_append]
  by_cases same : number = other <;> simp [same]

theorem answers_cons (record : Json) (waiter : Waiter) (rest : List Waiter) :
    answers record (waiter :: rest) =
      answers record rest ++ if waiter.seeks record then [(waiter.call,.ok record)] else [] := by
  unfold answers
  rw [List.filter_cons]
  cases waiter.seeks record <;> simp

theorem settlementsOf_hear (state : State) (record : Json) (distinct : (state.waiters.map Waiter.call).Nodup) :
    (state.hear record).settlementsOf number = state.settlementsOf number ++
      if ∃ waiter ∈ state.waiters, waiter.call = number ∧ waiter.seeks record = true then [.ok record] else [] := by
  unfold State.settlementsOf State.hear
  rw [List.filterMap_append]
  congr 1
  generalize state.waiters = waiters at distinct ⊢
  induction waiters with
  | nil => simp [answers]
  | cons first rest ih =>
    obtain ⟨fresh,distinct⟩ := List.nodup_cons.mp distinct
    rw [answers_cons,List.filterMap_append,ih distinct]
    by_cases same : first.call = number
    · -- no other waiter is of this call
      have alone : ¬ ∃ waiter ∈ rest, waiter.call = number ∧ waiter.seeks record = true := by
        rintro ⟨waiter,member,call,-⟩
        exact fresh (List.mem_map.mpr ⟨waiter,member,call.trans same.symm⟩)
      rw [if_neg alone,List.nil_append]
      cases seeks : first.seeks record with
      | true => simp [same,seeks]
      | false =>
        rw [if_neg (by decide),if_neg]
        · rfl
        · rintro ⟨waiter,member,call,sought⟩
          rcases List.mem_cons.mp member with rfl | later
          · rw [seeks] at sought
            cases sought
          · exact alone ⟨waiter,later,call,sought⟩
    · cases first.seeks record <;> simp [same]

theorem Consistent.unsettled {events : List Event} (consistent : Consistent events state) :
    state.settlementsOf state.calls.length = [] := by
  refine List.filterMap_eq_nil_iff.mpr (fun settlement member => if_neg ?_)
  exact Nat.ne_of_lt (consistent.settlements settlement member)

end settlements

section steps
variable {engine : Engine} {events : List Event} {event : Event} {state : State} {number : Nat} {sought : WaitFor}

theorem Exact.distinct (holds : Exact engine events state) : (state.waiters.map Waiter.call).Nodup := by
  rw [holds.waiting]
  exact List.nodup_range.filter _

theorem Exact.waits_iff (holds : Exact engine events state)
    (made : (registrations events)[number]? = some sought) :
    number ∈ state.waiters.map Waiter.call ↔ verdict engine events number sought = none := by
  have bound := (List.getElem?_eq_some_iff.mp made).1
  rw [holds.waiting,List.mem_filter,holds.settled number sought made,List.mem_range]
  cases verdict engine events number sought <;> simp [bound]

theorem Consistent.seeks_iff (consistent : Consistent events state)
    (made : (registrations events)[number]? = some sought) (record : Json) :
    (∃ waiter ∈ state.waiters, waiter.call = number ∧ waiter.seeks record = true) ↔
      number ∈ state.waiters.map Waiter.call ∧ sought.seeks record = true := by
  have same : ∀ waiter ∈ state.waiters, waiter.call = number → waiter.sought = sought := by
    rintro waiter member rfl
    have own := (consistent.waiters waiter member).1
    rw [consistent.calls,made] at own
    exact (Option.some.inj own).symm
  constructor
  · rintro ⟨waiter,member,call,seeks⟩
    rw [Waiter.seeks,same waiter member call] at seeks
    exact ⟨List.mem_map.mpr ⟨waiter,member,call⟩,seeks⟩
  · rintro ⟨waits,seeks⟩
    obtain ⟨waiter,member,call⟩ := List.mem_map.mp waits
    refine ⟨waiter,member,call,?_⟩
    rw [Waiter.seeks,same waiter member call]
    exact seeks

theorem Exact.settled_hear (holds : Exact engine events state) (consistent : Consistent events state)
    (record : Json) (made : (registrations events)[number]? = some sought) :
    (state.hear record).settlementsOf number =
      ((verdict engine events number sought).or (([record].find? sought.seeks).map .ok)).toList := by
  rw [settlementsOf_hear state record holds.distinct,holds.settled number sought made]
  have seeks := consistent.seeks_iff made record
  rw [holds.waits_iff made] at seeks
  simp only [seeks]
  cases verdict engine events number sought with
  | some outcome => simp
  | none =>
    cases found : sought.seeks record <;> simp [found]

/-- The waiters that stay are those that still have not been settled. -/
theorem Exact.waiting_filter (holds : Exact engine events state) {after : State} {stays : Waiter → Bool}
    (waiters : after.waiters = state.waiters.filter stays)
    (agrees : ∀ waiter ∈ state.waiters, stays waiter = (after.settlementsOf waiter.call).isEmpty)
    (grows : ∀ number, after.settlementsOf number = [] → state.settlementsOf number = []) :
    after.waiters.map Waiter.call = (List.range (registrations events).length).filter
      (fun number => (after.settlementsOf number).isEmpty) := by
  have mapped : after.waiters.map Waiter.call = (state.waiters.map Waiter.call).filter
      (fun number => (after.settlementsOf number).isEmpty) := by
    rw [waiters,List.filter_map]
    exact congrArg (List.map Waiter.call) (List.filter_congr agrees)
  rw [mapped,holds.waiting,List.filter_filter]
  refine List.filter_congr (fun number _ => ?_)
  cases ended : after.settlementsOf number with
  | nil =>
    rw [grows number ended]
    rfl
  | cons => rfl

theorem Exact.armed_filter (holds : Exact engine events state) {after : State} {stays : Waiter → Bool}
    (waiters : after.waiters = state.waiters.filter stays)
    (timers : ∀ number, number ∈ after.timers ↔ number ∈ state.timers ∧
      ∀ waiter ∈ state.waiters, waiter.call = number → stays waiter = true) (number : Nat) :
    number ∈ after.timers ↔ number ∈ after.waiters.map Waiter.call := by
  rw [timers,holds.armed,waiters]
  constructor
  · rintro ⟨waits,stay⟩
    obtain ⟨waiter,member,call⟩ := List.mem_map.mp waits
    exact List.mem_map.mpr ⟨waiter,List.mem_filter.mpr ⟨member,stay waiter member call⟩,call⟩
  · intro waits
    obtain ⟨waiter,member,rfl⟩ := List.mem_map.mp waits
    obtain ⟨member,stays⟩ := List.mem_filter.mp member
    refine ⟨List.mem_map.mpr ⟨waiter,member,rfl⟩,?_⟩
    intro other present same
    obtain rfl := List.inj_on_of_nodup_map holds.distinct present member same
    exact stays

theorem Exact.hear (holds : Exact engine events state) (consistent : Consistent events state) (record : Json) :
    Exact engine (events ++ [.message (some (.json record))]) (state.hear record) := by
  have same : registrations (events ++ [.message (some (.json record))]) = registrations events :=
    registrations_same events rfl
  constructor
  · intro number sought made
    rw [same] at made
    rw [holds.settled_hear consistent record made,verdict_concat rfl]
    rfl
  · rw [same]
    refine holds.waiting_filter rfl ?_ ?_
    · intro waiter member
      have made := (consistent.waiters waiter member).1
      rw [consistent.calls] at made
      have unsettled := (holds.waits_iff made).mp (List.mem_map.mpr ⟨waiter,member,rfl⟩)
      rw [holds.settled_hear consistent record made,unsettled]
      cases seeks : waiter.sought.seeks record <;> simp [Waiter.seeks,seeks]
    · intro number ended
      rw [settlementsOf_hear state record holds.distinct] at ended
      exact (List.append_eq_nil_iff.mp ended).1
  · refine holds.armed_filter rfl (fun number => ?_)
    unfold State.hear
    rw [List.mem_filter]
    refine and_congr_right (fun _ => List.all_eq_true.trans (forall₂_congr (fun waiter member => ?_)))
    rw [(consistent.waiters waiter member).2]
    cases waiter.seeks record <;> simp

/-- A message that is no JSON text, or none at all, settles nothing. -/
theorem Exact.idle (holds : Exact engine events state) {after : State} (asks : event.registration = none)
    (brings : event.arrival = none) (other : ∀ number, event.expires number = false)
    (settlements : after.settlements = state.settlements) (waiters : after.waiters = state.waiters)
    (timers : after.timers = state.timers) : Exact engine (events ++ [event]) after := by
  have settled := settlementsOf_same settlements
  have same := registrations_same events asks
  constructor
  · intro number sought made
    rw [same] at made
    rw [settled,holds.settled number sought made,verdict_same (other number) brings]
  · rw [same,waiters,holds.waiting]
    exact List.filter_congr (fun number _ => by rw [settled])
  · rw [timers,waiters]
    exact holds.armed

theorem Consistent.verdict_new (consistent : Consistent events state) (sought : WaitFor) :
    verdict engine events state.calls.length sought = (state.records.find? sought.seeks).map .ok := by
  rw [consistent.records]
  refine verdict_of_running (Bool.eq_false_iff.mpr (fun expired => ?_))
  exact Nat.lt_irrefl _ (consistent.timeouts _ expired)

section registration
variable (asks : event.registration = some sought) (consistent : Consistent events state)
  (brings : event.arrival = none) (other : ∀ number, event.expires number = false)
include asks

theorem registrations_call : registrations (events ++ [event]) = registrations events ++ [sought] := by
  rw [registrations_concat,asks]
  rfl

include consistent

theorem Consistent.registered_iff {made : WaitFor} : (registrations (events ++ [event]))[number]? = some made ↔
    (registrations events)[number]? = some made ∨ (number = state.calls.length ∧ made = sought) := by
  rw [registrations_call asks,consistent.calls]
  rcases Nat.lt_trichotomy number (registrations events).length with before | rfl | behind
  · rw [List.getElem?_append_left before]
    exact (or_iff_left (fun last => Nat.ne_of_lt before last.1)).symm
  · rw [List.getElem?_concat_length,List.getElem?_eq_none (Nat.le_refl _)]
    simp [eq_comm]
  · rw [List.getElem?_eq_none (by simp; omega),List.getElem?_eq_none (Nat.le_of_lt behind)]
    simp
    omega

include brings other

/-- After a call of `waitFor` the waits end as they should when this one does. -/
theorem Exact.registers (holds : Exact engine events state) {after : State}
    (settlements : ∀ number, after.settlementsOf number = state.settlementsOf number ++
      if state.calls.length = number then (verdict engine events state.calls.length sought).toList else [])
    (waiters : after.waiters.map Waiter.call = state.waiters.map Waiter.call ++
      if verdict engine events state.calls.length sought = none then [state.calls.length] else [])
    (timers : after.timers = state.timers ++
      if verdict engine events state.calls.length sought = none then [state.calls.length] else []) :
    Exact engine (events ++ [event]) after := by
  have earlier : ∀ number, number < state.calls.length →
      after.settlementsOf number = state.settlementsOf number := by
    intro number before
    rw [settlements,if_neg (Nat.ne_of_gt before),List.append_nil]
  have last : after.settlementsOf state.calls.length =
      (verdict engine events state.calls.length sought).toList := by
    rw [settlements,consistent.unsettled,if_pos rfl,List.nil_append]
  constructor
  · intro number made found
    rw [verdict_same (other number) brings]
    rcases (consistent.registered_iff asks).mp found with old | ⟨rfl,rfl⟩
    · rw [← holds.settled number made old]
      apply earlier
      rw [consistent.calls]
      exact (List.getElem?_eq_some_iff.mp old).1
    · exact last
  · rw [waiters,holds.waiting,registrations_call asks,List.length_append,List.length_singleton,
      List.range_succ,List.filter_append,← consistent.calls]
    congr 1
    · refine List.filter_congr (fun number member => ?_)
      rw [earlier number (List.mem_range.mp member)]
    · rw [List.filter_singleton,last]
      cases verdict engine events state.calls.length sought <;> rfl
  · intro number
    rw [timers,waiters,List.mem_append,List.mem_append,holds.armed]

end registration

end steps

end MessagingPlatform.Lifecycle
