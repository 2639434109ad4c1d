import MessagingPlatform.Consumer.ExactlyOnce

/-! The messages of an event move from queue to queue. What the broker does on its own account, and
what others do with a message that no delivery holds, keeps one of them until the event has been
processed or the message has been logged as dead. -/
namespace MessagingPlatform.Consumer

def State.Carries (settings : Settings) (state : State) (tag : Nat) (body : Body) (eventId : String) : Prop :=
  ∃ envelope, state.envelopes[tag]? = some envelope ∧ envelope.body = body ∧
    eventIdOf settings envelope.body envelope.headers = some eventId

def State.Has (state : State) (copy : Copy) : Prop := copy ∈ state.copies ∨ copy ∈ state.logged

def commandQueues : List String := [Queues.work,Queues.retry,Queues.dlq]

/-- A message in one of the queues; one that is handed out is the message of its delivery. -/
structure Copy.Placed (fresh : Nat) (delivered : Nat → Option Nat) (copy : Copy) : Prop where
  queue : copy.queue ∈ commandQueues
  held : ∀ pid, copy.unackedBy = some pid →
    copy.queue = Queues.work ∧ pid < fresh ∧ delivered pid = some copy.tag

structure RetryPublish.Backed (settings : Settings) (state : State) (published : RetryPublish) : Prop where
  exchange : published.publication.exchange = Exchanges.main
  routingKey : published.publication.routingKey = RoutingKeys.retry
  since : published.since ≤ state.envelopes.length
  enqueued : published.fate = .enqueued → ∀ eventId,
    eventIdOf settings published.publication.body published.publication.headers = some eventId →
    ∃ tag, published.since ≤ tag ∧ state.Carries settings tag published.publication.body eventId

/-- An event whose message was enqueued is processed, or a message with the same body that was
enqueued no earlier is still there. -/
def Retained (settings : Settings) (state : State) : Prop :=
  ∀ tag body eventId, state.Carries settings tag body eventId → state.Processed eventId ∨
    ∃ copy, state.Has copy ∧ tag ≤ copy.tag ∧ state.Carries settings copy.tag body eventId

structure Conserved (settings : Settings) (fresh : Nat) (state : State) : Prop where
  consistent : Consistent settings fresh state
  placed : ∀ copy ∈ state.copies, copy.Placed fresh state.delivered
  backed : ∀ published ∈ state.publishes, published.Backed settings state
  kept : Retained settings state

variable {settings : Settings} {fresh pid : Nat} {state before after : State}

namespace State

theorem Carries.carriedBy {tag : Nat} {body : Body} {eventId : String}
    (carries : state.Carries settings tag body eventId) : state.carriedBy settings tag = some eventId := by
  obtain ⟨envelope,found,_,event⟩ := carries
  exact Option.bind_eq_some_iff.mpr ⟨envelope,found,event⟩

theorem Carries.grows {tag : Nat} {body : Body} {eventId : String} {added : List Envelope}
    (carries : before.Carries settings tag body eventId)
    (grown : after.envelopes = before.envelopes ++ added) : after.Carries settings tag body eventId := by
  obtain ⟨envelope,found,same,event⟩ := carries
  refine ⟨envelope,?_,same,event⟩
  rw [grown,List.getElem?_append_left (List.getElem?_eq_some_iff.mp found).1]
  exact found

theorem Carries.congr {tag : Nat} {body : Body} {eventId : String}
    (carries : before.Carries settings tag body eventId)
    (same : after.envelopes = before.envelopes) : after.Carries settings tag body eventId := by
  obtain ⟨envelope,found,rest⟩ := carries
  exact ⟨envelope,same ▸ found,rest⟩

theorem Carries.handler {tag : Nat} {body : Body} {eventId : String}
    (carries : state.Carries settings tag body eventId) :
    ∃ data, state.handlerOf tag = some (.handleMessage,data) := by
  obtain ⟨envelope,found,_,event⟩ := carries
  unfold eventIdOf at event
  split at event
  next data dispatched => exact ⟨data,by simp [handlerOf,found,dispatched]⟩
  next => cases event

theorem mem_replace {moves : Copy → Bool} {targets : Copy → List Copy} {copy : Copy} :
    copy ∈ (state.replace moves targets).copies ↔
      ∃ old ∈ state.copies, if moves old = true then copy ∈ targets old else copy = old := by
  simp only [replace,List.mem_flatMap]
  constructor
  · intro found
    obtain ⟨old,member,here⟩ := found
    refine ⟨old,member,?_⟩
    split at here
    next moved => rwa [if_pos moved]
    next still => rw [if_neg still]; exact List.mem_singleton.mp here
  · intro found
    obtain ⟨old,member,here⟩ := found
    refine ⟨old,member,?_⟩
    split at here
    next moved => rwa [if_pos moved]
    next still => rw [if_neg still]; exact List.mem_singleton.mpr here

theorem Has.replace {copy : Copy} (has : state.Has copy) (moves : Copy → Bool)
    (targets : Copy → List Copy) :
    (state.replace moves targets).Has copy ∨ copy ∈ state.copies ∧ moves copy = true := by
  rcases has with queued | logged
  · by_cases moved : moves copy = true
    · exact .inr ⟨queued,moved⟩
    · exact .inl (.inl (mem_replace.mpr ⟨copy,queued,by rw [if_neg moved]⟩))
  · exact .inl (.inr logged)

theorem has_target {moves : Copy → Bool} {targets : Copy → List Copy} {old copy : Copy}
    (member : old ∈ state.copies) (moved : moves old = true) (target : copy ∈ targets old) :
    (state.replace moves targets).Has copy :=
  .inl (mem_replace.mpr ⟨old,member,by rwa [if_pos moved]⟩)

theorem placed_replace {moves : Copy → Bool} {targets : Copy → List Copy} {delivered : Nat → Option Nat}
    (placed : ∀ copy ∈ state.copies, copy.Placed fresh delivered)
    (moved : ∀ old ∈ state.copies, moves old = true → ∀ copy ∈ targets old, copy.Placed fresh delivered) :
    ∀ copy ∈ (state.replace moves targets).copies, copy.Placed fresh delivered := by
  intro copy member
  obtain ⟨old,present,here⟩ := mem_replace.mp member
  split at here
  next moves => exact moved old present moves copy here
  next => exact here ▸ placed old present

theorem placed_ready {queue : String} {tag : Nat} {delivered : Nat → Option Nat}
    (queued : queue ∈ commandQueues) : Copy.Placed fresh delivered ⟨tag,queue,none⟩ :=
  ⟨queued,fun _ held => nomatch held⟩

theorem deadLetter_work (key : String) :
    (declaredTopology.deadLetter Queues.work key).1 = [Queues.dlq] := by
  rfl

theorem deadLetter_retry (key : String) :
    (declaredTopology.deadLetter Queues.retry key).1 = [Queues.work] := by
  rfl

theorem deadLettered_work {copy : Copy} (queue : copy.queue = Queues.work) :
    state.deadLettered copy = [⟨copy.tag,Queues.dlq,none⟩] := by
  rw [deadLettered,queue,deadLetter_work]
  rfl

theorem deadLettered_retry {copy : Copy} (queue : copy.queue = Queues.retry) :
    state.deadLettered copy = [⟨copy.tag,Queues.work,none⟩] := by
  rw [deadLettered,queue,deadLetter_retry]
  rfl

theorem deadLettered_held {copy : Copy} {delivered : Nat → Option Nat} {pid : Nat}
    (placed : copy.Placed fresh delivered) (held : heldBy pid copy = true) :
    state.deadLettered copy = [⟨copy.tag,Queues.dlq,none⟩] :=
  deadLettered_work (placed.held pid (beq_iff_eq.mp held)).1

end State

/-- No event loses its last message when each message stays, or the event has been processed, or
another message takes the place. -/
theorem Retained.follow (kept : Retained settings before) (same : after.envelopes = before.envelopes)
    (processed : ∀ eventId, before.Processed eventId → after.Processed eventId)
    (follows : ∀ copy body eventId, before.Has copy → before.Carries settings copy.tag body eventId →
      before.Processed eventId ∨ ∃ next, after.Has next ∧ copy.tag ≤ next.tag ∧
        before.Carries settings next.tag body eventId) : Retained settings after := by
  intro tag body eventId carries
  rcases kept tag body eventId (carries.congr same.symm) with done | ⟨copy,has,later,carried⟩
  · exact .inl (processed eventId done)
  · rcases follows copy body eventId has carried with done | ⟨next,there,after,again⟩
    · exact .inl (processed eventId done)
    · exact .inr ⟨next,there,later.trans after,again.congr same⟩

theorem Retained.replace (kept : Retained settings state) {moves : Copy → Bool} {targets : Copy → List Copy}
    (keeps : ∀ old ∈ state.copies, moves old = true → ∃ copy ∈ targets old, copy.tag = old.tag) :
    Retained settings (state.replace moves targets) := by
  refine kept.follow rfl (fun _ done => done) ?_
  intro copy body eventId has carries
  rcases has.replace moves targets with stays | ⟨member,moved⟩
  · exact .inr ⟨copy,stays,Nat.le_refl _,carries⟩
  · obtain ⟨next,target,same⟩ := keeps copy member moved
    exact .inr ⟨next,State.has_target member moved target,same.ge,same ▸ carries⟩

structure SameBroker (before after : State) : Prop where
  envelopes : after.envelopes = before.envelopes
  copies : after.copies = before.copies
  publishes : after.publishes = before.publishes
  logged : after.logged = before.logged
  delivered : after.delivered = before.delivered

theorem RetryPublish.Backed.grows {published : RetryPublish} {added : List Envelope}
    (backed : published.Backed settings before) (grown : after.envelopes = before.envelopes ++ added) :
    published.Backed settings after where
  exchange := backed.exchange
  routingKey := backed.routingKey
  since := by
    rw [grown,List.length_append]
    exact Nat.le_add_right_of_le backed.since
  enqueued enqueued eventId event := by
    obtain ⟨tag,later,carries⟩ := backed.enqueued enqueued eventId event
    exact ⟨tag,later,carries.grows grown⟩

theorem RetryPublish.Backed.congr {published : RetryPublish} (backed : published.Backed settings before)
    (same : after.envelopes = before.envelopes) : published.Backed settings after :=
  backed.grows (same.trans (List.append_nil _).symm)

theorem Conserved.same (conserved : Conserved settings fresh before) (broker : SameBroker before after)
    (consistent : Consistent settings fresh after)
    (processed : ∀ eventId, before.Processed eventId → after.Processed eventId) :
    Conserved settings fresh after where
  consistent := consistent
  placed := by
    rw [broker.copies,broker.delivered]
    exact conserved.placed
  backed := by
    rw [broker.publishes]
    intro published member
    exact (conserved.backed published member).congr broker.envelopes
  kept := by
    refine conserved.kept.follow broker.envelopes processed ?_
    intro copy body eventId has carries
    refine .inr ⟨copy,?_,Nat.le_refl _,carries⟩
    rw [State.Has,broker.copies,broker.logged]
    exact has

theorem Conserved.replace (conserved : Conserved settings fresh state) {moves : Copy → Bool}
    {targets : Copy → List Copy} (moved : ∀ old ∈ state.copies, moves old = true → ∀ copy ∈ targets old,
      copy.Placed fresh state.delivered)
    (kept : Retained settings (state.replace moves targets)) :
    Conserved settings fresh (state.replace moves targets) where
  consistent := conserved.consistent.same ⟨rfl,rfl,rfl⟩
  placed := State.placed_replace conserved.placed moved
  backed published member := (conserved.backed published member).congr rfl
  kept := kept

theorem Conserved.enqueue (conserved : Conserved settings fresh state) (envelope : Envelope)
    {queue : String} (queued : queue ∈ commandQueues) :
    Conserved settings fresh (state.enqueue [queue] envelope) where
  consistent := conserved.consistent.grows ⟨rfl,_,rfl⟩ rfl
  placed := by
    intro copy member
    rcases List.mem_append.mp member with old | new
    · exact conserved.placed copy old
    · rw [List.mem_singleton.mp new]
      exact State.placed_ready queued
  backed published member := (conserved.backed published member).grows rfl
  kept := by
    intro tag body eventId carries
    have grown : (state.enqueue [queue] envelope).envelopes = state.envelopes ++ [envelope] := rfl
    by_cases known : tag < state.envelopes.length
    · have carried : state.Carries settings tag body eventId := by
        obtain ⟨found,there,rest⟩ := carries
        rw [grown,List.getElem?_append_left known] at there
        exact ⟨found,there,rest⟩
      rcases conserved.kept tag body eventId carried with done | ⟨copy,has,later,again⟩
      · exact .inl done
      · refine .inr ⟨copy,?_,later,again.grows grown⟩
        exact has.imp_left (List.mem_append_left _)
    · have bound := State.lt_of_carriedBy carries.carriedBy
      rw [grown,List.length_append] at bound
      have same : tag = state.envelopes.length := by simp at bound; omega
      subst same
      exact .inr ⟨⟨state.envelopes.length,queue,none⟩,.inl (List.mem_append_right _ List.mem_cons_self),
        Nat.le_refl _,carries⟩

theorem State.settlePublish_mem {index : Nat} {published other : RetryPublish} {fate : Fate}
    (member : other ∈ (state.settlePublish index published fate).publishes) :
    other ∈ state.publishes ∨ other = { published with fate } :=
  List.mem_or_eq_of_mem_set member

theorem Conserved.settlePublish (conserved : Conserved settings fresh state) {index : Nat}
    {published : RetryPublish} (member : published ∈ state.publishes) {fate : Fate}
    (enqueued : fate = .enqueued → ∀ eventId,
      eventIdOf settings published.publication.body published.publication.headers = some eventId →
      ∃ tag, published.since ≤ tag ∧ state.Carries settings tag published.publication.body eventId) :
    Conserved settings fresh (state.settlePublish index published fate) where
  consistent := conserved.consistent.same ⟨rfl,rfl,rfl⟩
  placed := conserved.placed
  backed := by
    intro other present
    rcases State.settlePublish_mem present with old | rfl
    · exact (conserved.backed other old).congr rfl
    · obtain ⟨exchange,routingKey,since,_⟩ := conserved.backed published member
      exact ⟨exchange,routingKey,since,enqueued⟩
  kept := conserved.kept

theorem Conserved.route (conserved : Conserved settings fresh state) {index : Nat}
    {published : RetryPublish} (member : published ∈ state.publishes) :
    Conserved settings fresh ((state.settlePublish index published .enqueued).enqueue [Queues.retry]
      ⟨published.publication.body,published.publication.headers,published.publication.routingKey⟩) := by
  have queued : Queues.retry ∈ commandQueues := by simp [commandQueues]
  let envelope : Envelope :=
    ⟨published.publication.body,published.publication.headers,published.publication.routingKey⟩
  have enqueued := conserved.enqueue envelope queued
  refine enqueued.settlePublish member ?_
  intro _ eventId event
  exact ⟨state.envelopes.length,(conserved.backed published member).since,envelope,
    List.getElem?_concat_length,rfl,event⟩

theorem route_work : declaredTopology.route Exchanges.main RoutingKeys.work = some [Queues.work] := by rfl

theorem route_retry : declaredTopology.route Exchanges.main RoutingKeys.retry = some [Queues.retry] := by rfl

theorem State.readyIn_iff {queue : String} {tag : Nat} {copy : Copy} :
    readyIn queue tag copy = true ↔ copy.tag = tag ∧ copy.queue = queue ∧ copy.unackedBy = none := by
  simp [readyIn,and_assoc]

theorem Conserved.deadLetter (conserved : Conserved settings fresh state) {moves : Copy → Bool}
    (next : String) (queued : next ∈ commandQueues)
    (moved : ∀ copy ∈ state.copies, moves copy = true → state.deadLettered copy = [⟨copy.tag,next,none⟩]) :
    Conserved settings fresh (state.replace moves state.deadLettered) := by
  refine conserved.replace ?_ (conserved.kept.replace ?_)
  · intro old member moves copy target
    rw [moved old member moves] at target
    rw [List.mem_singleton.mp target]
    exact State.placed_ready queued
  · intro old member moves
    rw [moved old member moves]
    exact ⟨_,List.mem_singleton.mpr rfl,rfl⟩

theorem Conserved.rejectReady (conserved : Conserved settings fresh state) (tag : Nat) :
    Conserved settings fresh (state.replace (State.readyIn Queues.work tag) state.deadLettered) := by
  refine conserved.deadLetter Queues.dlq (by simp [commandQueues]) ?_
  intro copy _ ready
  exact State.deadLettered_work (State.readyIn_iff.mp ready).2.1

/-- Messages that no one is to process any more can go. -/
theorem Conserved.drop (conserved : Conserved settings fresh state) {moves : Copy → Bool}
    (done : ∀ copy ∈ state.copies, moves copy = true → ∀ body eventId,
      state.Carries settings copy.tag body eventId → state.Processed eventId ∨
        ∃ next, (state.replace moves (fun _ => [])).Has next ∧ copy.tag ≤ next.tag ∧
          state.Carries settings next.tag body eventId) :
    Conserved settings fresh (state.replace moves (fun _ => [])) := by
  refine conserved.replace (fun _ _ _ _ target => nomatch target) ?_
  refine conserved.kept.follow rfl (fun _ processed => processed) ?_
  intro copy body eventId has carries
  rcases has.replace moves (fun _ => []) with stays | ⟨member,moved⟩
  · exact .inr ⟨copy,stays,Nat.le_refl _,carries⟩
  · exact done copy member moved body eventId carries

theorem Conserved.giveBack (conserved : Conserved settings fresh state) (moves : Copy → Bool) :
    Conserved settings fresh (state.replace moves (fun copy => [{ copy with unackedBy := none }])) := by
  refine conserved.replace ?_ (conserved.kept.replace ?_)
  · intro old member _ copy target
    rw [List.mem_singleton.mp target]
    exact State.placed_ready (conserved.placed old member).queue
  · intro old _ _
    exact ⟨_,List.mem_singleton.mpr rfl,rfl⟩

theorem Conserved.logDlq (conserved : Conserved settings fresh before) {tag : Nat}
    (happened : before.external (.logDlq tag) = some after) : Conserved settings fresh after := by
  obtain rfl := Option.some.inj happened
  refine ⟨conserved.consistent.same ⟨rfl,rfl,rfl⟩,State.placed_replace conserved.placed
    (fun _ _ _ _ target => nomatch target),fun published member =>
      (conserved.backed published member).congr rfl,?_⟩
  refine conserved.kept.follow rfl (fun _ processed => processed) ?_
  intro copy body eventId has carries
  refine .inr ⟨copy,?_,Nat.le_refl _,carries⟩
  rcases has.replace (State.readyIn Queues.dlq tag) (fun _ => []) with stays | ⟨member,ready⟩
  · exact stays.imp_right (List.mem_append_left _)
  · exact .inr (List.mem_append_right _ (List.mem_filter.mpr ⟨member,ready⟩))

theorem Conserved.external (conserved : Conserved settings fresh before) {event : External}
    (happened : before.external event = some after) : Conserved settings fresh after := by
  cases event with
  | enqueue body headers =>
    simp only [State.external,route_work,Option.map_some,Option.some.injEq] at happened
    subst happened
    exact conserved.enqueue _ (by simp [commandQueues])
  | route index =>
    simp only [State.external] at happened
    split at happened
    next published found =>
      have member := List.mem_of_getElem? found
      have backed := conserved.backed published member
      simp only [backed.exchange,backed.routingKey,route_retry] at happened
      split at happened
      next =>
        obtain rfl := Option.some.inj happened
        have routed := @Conserved.route settings fresh before conserved index published member
        rwa [backed.routingKey] at routed
      next => cases happened
    next => cases happened
  | reject index =>
    simp only [State.external] at happened
    split at happened
    next published found =>
      split at happened
      next =>
        obtain rfl := Option.some.inj happened
        exact conserved.settlePublish (List.mem_of_getElem? found) (fun taken => absurd taken (by decide))
      next => cases happened
    next => cases happened
  | requeue tag =>
    obtain rfl := Option.some.inj happened
    exact conserved.giveBack _
  | expire tag =>
    obtain rfl := Option.some.inj happened
    refine conserved.deadLetter Queues.work (by simp [commandQueues]) ?_
    intro copy _ ready
    exact State.deadLettered_retry (State.readyIn_iff.mp ready).2.1
  | rejectUnmatched tag =>
    simp only [State.external,Option.ite_none_right_eq_some,Option.some.injEq] at happened
    obtain ⟨_,rfl⟩ := happened
    exact conserved.rejectReady tag
  | handleTestRabbit tag acked =>
    simp only [State.external,Option.ite_none_right_eq_some,Option.some.injEq] at happened
    obtain ⟨other,rfl⟩ := happened
    cases acked with
    | false => exact conserved.rejectReady tag
    | true =>
      refine conserved.drop ?_
      intro copy _ ready body eventId carries
      obtain ⟨data,handler⟩ := carries.handler
      rw [(State.readyIn_iff.mp ready).1] at handler
      rw [handler] at other
      cases other
  | logDlq tag => exact conserved.logDlq happened
  | abort pid =>
    have consistent := (conserved.consistent.external happened).1
    have processed := fun eventId => @State.external_processed before after (.abort pid) happened eventId
    obtain rfl := Option.some.inj happened
    exact conserved.same ⟨rfl,rfl,rfl,rfl,rfl⟩ consistent processed

end MessagingPlatform.Consumer
