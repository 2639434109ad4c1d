import MessagingPlatform.Lib.Ttl
import MessagingPlatform.Contracts.Backoff
import MessagingPlatform.Consumer.Conclusion

/-! The retry queue. Every copy that `publishToRetry` writes goes to one queue with a time to live of
its own, and the broker looks at the times to live of a classic queue at its head only. -/
namespace MessagingPlatform.Broker
open Consumer (Request Reply sampleReply sampleEngine)
open Consumer.RetryPublisherService (publication publishToRetry)

/-- The time to live that the `expiration` of a message spells; the broker refuses anything that is
not a row of digits. -/
def expirationMs? (text : String) : Option Nat :=
  if text.toList ≠ [] ∧ text.toList.all Char.isDigit then some (Nat.ofDigitChars 10 text.toList 0) else none

theorem expirationMs?_toString (n : Nat) : expirationMs? (toString n) = some n := by
  have digits : (toString n).toList = Nat.toDigits 10 n := by
    change (Nat.repr n).toList = _
    simp [Nat.repr]
  unfold expirationMs?
  rw [digits,if_pos,Nat.ofDigitChars_toDigits (by decide) (by decide)]
  refine ⟨Nat.toDigits_ne_nil,?_⟩
  rw [List.all_eq_true]
  intro c member
  exact Nat.isDigit_of_mem_toDigits (by decide) (by decide) member

def expiry (copy : Publication) : Option Nat := copy.expiration.bind expirationMs?

theorem expiry_publication (engine : Engine) (payload : Body) (headers : Headers) {attempt : Nat}
    (counted : 1 ≤ attempt) (carrier : TraceCarrier) :
    expiry (publication engine payload headers (.finite attempt) carrier) = some (backoffMs attempt) := by
  change expirationMs? (engine.print (retryDelayMs engine (.finite attempt))) = _
  rw [print_retryDelayMs engine counted]
  exact expirationMs?_toString _

abbrev RetryQueue := Ttl.Queue Publication

def accept (queue : RetryQueue) (copy : Publication) : RetryQueue :=
  if declaredTopology.route copy.exchange copy.routingKey = some [Queues.retry] then
    ((expiry copy).bind (fun ttl => queue.step (.enqueue copy ttl))).getD queue
  else queue

theorem accept_cases (queue : RetryQueue) (copy : Publication) : accept queue copy = queue ∨
    ∃ ttl, expiry copy = some ttl ∧ queue.step (.enqueue copy ttl) = some (accept queue copy) := by
  by_cases routed : declaredTopology.route copy.exchange copy.routingKey = some [Queues.retry]
  · cases lives : expiry copy with
    | none =>
      left
      simp [accept,routed,lives]
    | some ttl =>
      refine .inr ⟨ttl,rfl,?_⟩
      simp [accept,routed,lives,Ttl.Queue.step]
  · left
    exact if_neg routed

abbrev Settlements := (request : Request) → Except Thrown (Reply request) × Bool

def Settlements.answer (settlements : Settlements) (queue : RetryQueue) :
    (request : Request) → Except Thrown (Reply request) × RetryQueue
  | .publish channel copy => ((settlements (.publish channel copy)).1,
      if (settlements (.publish channel copy)).2 then accept queue copy else queue)
  | request => ((settlements request).1,queue)

inductive RetryAction where
  | publishToRetry (payload : Body) (headers : Headers) (attemptNumber : JsNumber) (correlationId : String)
      (settlements : Settlements)
  | elapse (ms : Nat)
  | expire

def retryStep (engine : Engine) (queue : RetryQueue) : RetryAction → Option RetryQueue
  | .publishToRetry payload headers attemptNumber correlationId settlements =>
      some ((publishToRetry engine payload headers attemptNumber correlationId).evaluate settlements.answer queue).2
  | .elapse ms => queue.step (.elapse ms)
  | .expire => queue.step .expire

abbrev Retrying (engine : Engine) (declaredAt : Nat) (queue : RetryQueue) : Prop :=
  Machine.Reaches (retryStep engine) (fun _ _ => True) (Ttl.Queue.empty declaredAt) queue

/-- The message is the copy of an attempt, and lives for as long as its expiration says. -/
def Scheduled (engine : Engine) (held : Ttl.Held Publication) : Prop :=
  ∃ payload headers attemptNumber carrier, held.item = publication engine payload headers attemptNumber carrier ∧
    expiry held.item = some held.ttl

theorem Scheduled.ttl {engine : Engine} {held : Ttl.Held Publication} (scheduled : Scheduled engine held) :
    ∃ payload headers attemptNumber carrier, held.item = publication engine payload headers attemptNumber carrier ∧
      ∀ attempt : Nat, 1 ≤ attempt → attemptNumber = .finite attempt → held.ttl = backoffMs attempt := by
  obtain ⟨payload,headers,attemptNumber,carrier,same,lives⟩ := scheduled
  refine ⟨payload,headers,attemptNumber,carrier,same,?_⟩
  intro attempt counted number
  rw [same,number,expiry_publication engine payload headers counted carrier] at lives
  exact (Option.some.inj lives).symm

theorem publishToRetry_enqueues (engine : Engine) (payload : Body) (headers : Headers) (attemptNumber : JsNumber)
    (correlationId : String) (settlements : Settlements) (queue : RetryQueue) :
    let after := ((publishToRetry engine payload headers attemptNumber correlationId).evaluate
      settlements.answer queue).2
    after = queue ∨ ∃ carrier ttl, expiry (publication engine payload headers attemptNumber carrier) = some ttl ∧
      queue.step (.enqueue (publication engine payload headers attemptNumber carrier) ttl) = some after := by
  intro after
  have requested : after = ((publishToRetry engine payload headers attemptNumber correlationId).evaluate
    settlements.answer queue).2 := rfl
  unfold publishToRetry at requested
  simp only [Async.bind_eq,Async.evaluate_bind,Consumer.request,Async.evaluate_call,Settlements.answer] at requested
  cases channelled : (settlements .getChannel).1 with
  | error error =>
    rw [channelled] at requested
    exact .inl requested
  | ok channel =>
    cases injected : (settlements .inject).1 with
    | error error =>
      rw [channelled,injected] at requested
      exact .inl requested
    | ok carrier =>
      -- what follows the publish leaves the queue alone
      let copy := publication engine payload headers attemptNumber carrier
      have published : after =
          if (settlements (.publish channel copy)).2 then accept queue copy else queue := by
        rw [channelled,injected] at requested
        rw [requested]
        dsimp only
        cases buffered : (settlements (.publish channel copy)).1 with
        | error error => rfl
        | ok accepted =>
          cases accepted with
          | false => rfl
          | true =>
            simp only [if_true,Async.evaluate_call,Settlements.answer]
            rfl
      rcases accept_cases queue copy with same | enqueued
      · refine .inl (published.trans ?_)
        rw [same,ite_self]
      · by_cases taken : (settlements (.publish channel copy)).2 = true
        · rw [if_pos taken] at published
          rw [published]
          exact .inr ⟨carrier,enqueued⟩
        · rw [if_neg taken] at published
          exact .inl published

/-- Every step of the retry queue is a step of a queue whose messages expire at its head. -/
theorem retryStep_cases {engine : Engine} {queue after : RetryQueue} {action : RetryAction}
    (taken : retryStep engine queue action = some after) :
    after = queue ∨ ∃ event, queue.step event = some after ∧ ∀ copy ttl, event = .enqueue copy ttl →
      expiry copy = some ttl ∧ ∃ payload headers attemptNumber carrier,
        copy = publication engine payload headers attemptNumber carrier := by
  cases action with
  | publishToRetry payload headers attemptNumber correlationId settlements =>
    obtain rfl := Option.some.inj taken
    rcases publishToRetry_enqueues engine payload headers attemptNumber correlationId settlements queue with
      same | sent
    · exact .inl same
    · obtain ⟨carrier,ttl,lives,enqueued⟩ := sent
      refine .inr ⟨_,enqueued,?_⟩
      intro copy other same
      obtain ⟨rfl,rfl⟩ := Ttl.Event.enqueue.inj same
      exact ⟨lives,payload,headers,attemptNumber,carrier,rfl⟩
  | elapse ms => exact .inr ⟨.elapse ms,taken,fun _ _ impossible => by cases impossible⟩
  | expire => exact .inr ⟨.expire,taken,fun _ _ impossible => by cases impossible⟩

theorem Retrying.orderly {engine : Engine} {declaredAt : Nat} {queue : RetryQueue}
    (retrying : Retrying engine declaredAt queue) : Ttl.Orderly queue := by
  apply Machine.Reaches.invariant retrying (Ttl.Orderly.empty declaredAt)
  intro before action after orderly _ taken
  rcases retryStep_cases taken with same | stepped
  · exact same ▸ orderly
  · obtain ⟨event,moved,_⟩ := stepped
    exact orderly.step moved

theorem Retrying.scheduled {engine : Engine} {declaredAt : Nat} {queue : RetryQueue}
    (retrying : Retrying engine declaredAt queue) : ∀ held ∈ queue.messages, Scheduled engine held := by
  apply @Machine.Reaches.invariant _ _ _ _ (fun queue : RetryQueue => ∀ held ∈ queue.messages, Scheduled engine held)
    _ _ retrying
  · intro held impossible
    cases impossible
  · intro before action after scheduled _ taken
    rcases retryStep_cases taken with same | stepped
    · exact same ▸ scheduled
    · obtain ⟨event,moved,sent⟩ := stepped
      rcases Ttl.Queue.step_messages moved with unchanged | added
      · rw [unchanged]
        exact scheduled
      · obtain ⟨copy,ttl,enqueued,messages⟩ := added
        obtain ⟨lives,payload,headers,attemptNumber,carrier,same⟩ := sent copy ttl enqueued
        intro held member
        rw [messages] at member
        rcases List.mem_append.mp member with old | new
        · exact scheduled held old
        · obtain rfl := List.mem_singleton.mp new
          exact ⟨payload,headers,attemptNumber,carrier,same,lives⟩

/-- A copy leaves for the work queue at the last of its own deadline and those of the copies published
before it: no earlier than its own time to live, and at that time if and only if none of those expires
later. -/
theorem retry_delay_kept_iff (engine : Engine) (declaredAt : Nat) (queue : RetryQueue)
    (retrying : Retrying engine declaredAt queue) :
    declaredTopology.deadLetter Queues.retry RoutingKeys.retry = ([Queues.work],RoutingKeys.work) ∧
    (∀ held ∈ queue.messages, ∃ payload headers attemptNumber carrier,
      held.item = publication engine payload headers attemptNumber carrier ∧
      ∀ attempt : Nat, 1 ≤ attempt → attemptNumber = .finite attempt → held.ttl = backoffMs attempt) ∧
    (∀ earlier held departure later, queue.left = earlier ++ (held,departure) :: later →
      departure = max (Ttl.lastDeadline (earlier.map Prod.fst)) (held.arrival + held.ttl) ∧
      held.arrival + held.ttl ≤ departure ∧
      (departure = held.arrival + held.ttl ↔
        ∀ other ∈ earlier, other.1.arrival + other.1.ttl ≤ held.arrival + held.ttl)) ∧
    (∀ ahead held behind, queue.waiting = ahead ++ held :: behind →
      (∀ other ∈ queue.left.map Prod.fst ++ ahead, other.arrival + other.ttl ≤ held.arrival + held.ttl) →
      queue.now ≤ held.arrival + held.ttl) := by
  have orderly := retrying.orderly
  refine ⟨by decide,?_,?_,?_⟩
  · intro held member
    exact (retrying.scheduled held member).ttl
  · intro earlier held departure later left
    exact ⟨orderly.departed earlier held departure later left,orderly.punctual_iff left⟩
  · intro ahead held behind waiting sooner
    exact orderly.not_overdue waiting sooner

def sampleRetry (attempt : Nat) : RetryAction :=
  .publishToRetry (.text "") [] (.finite attempt) "c-1" (fun request => (.ok (sampleReply request),true))

/-- The copy of a first attempt leaves with the one of a fourth attempt in front of it. -/
theorem blocked_copy_waits :
    let queue := (Machine.run (retryStep sampleEngine) (Ttl.Queue.empty 0)
      [sampleRetry 4,sampleRetry 1,.elapse 16000,.expire,.expire]).get (by decide +kernel)
    ∃ front held, queue.left = [(front,16000),(held,16000)] ∧
      16000 = max (Ttl.lastDeadline [front]) (held.arrival + held.ttl) ∧
      held.arrival + held.ttl < front.arrival + front.ttl ∧ held.arrival + held.ttl ≠ 16000 := by
  intro queue
  have retrying : Retrying sampleEngine 0 queue :=
    Machine.run_reaches (Option.some_get _).symm (by decide +kernel)
  obtain ⟨_,_,departed,_⟩ := retry_delay_kept_iff sampleEngine 0 queue retrying
  have deadlines : queue.left.map (fun entry => (entry.1.arrival + entry.1.ttl,entry.2)) =
      [(16000,16000),(2000,16000)] := by decide +kernel
  obtain ⟨⟨front,_⟩,rest,left,first,others⟩ := List.map_eq_cons_iff.mp deadlines
  obtain ⟨⟨held,_⟩,rfl,second⟩ := List.map_eq_singleton_iff.mp others
  obtain ⟨late,rfl⟩ := Prod.mk.inj first
  obtain ⟨early,rfl⟩ := Prod.mk.inj second
  dsimp only at late early
  obtain ⟨time,_,punctual⟩ := departed [(front,16000)] held 16000 [] left
  have overtaken : held.arrival + held.ttl < front.arrival + front.ttl := by omega
  refine ⟨front,held,left,time,overtaken,?_⟩
  intro same
  have sooner : front.arrival + front.ttl ≤ held.arrival + held.ttl :=
    punctual.mp same.symm (front,16000) List.mem_cons_self
  omega

/-- A first attempt behind a fourth one waits sixteen seconds instead of two. -/
theorem first_attempt_delayed : ¬ ∀ (engine : Engine) (declaredAt : Nat) (queue : RetryQueue),
    Retrying engine declaredAt queue → ∀ held departure, (held,departure) ∈ queue.left →
    departure = held.arrival + held.ttl := by
  intro independent
  let queue := (Machine.run (retryStep sampleEngine) (Ttl.Queue.empty 0)
    [sampleRetry 4,sampleRetry 1,.elapse 16000,.expire,.expire]).get (by decide +kernel)
  have retrying : Retrying sampleEngine 0 queue :=
    Machine.run_reaches (Option.some_get _).symm (by decide +kernel)
  have punctual : ∀ entry ∈ queue.left, entry.2 = entry.1.arrival + entry.1.ttl :=
    fun entry member => independent sampleEngine 0 queue retrying entry.1 entry.2 member
  exact absurd punctual (by decide +kernel)

end MessagingPlatform.Broker
