import MessagingPlatform.Lib.Ghost
import MessagingPlatform.Consumer.NoLoss
import MessagingPlatform.Outbox.System

/-! The relays of both outboxes and the consumers of the messaging service on one broker with the
declared topology. A relay may publish any row at any time and any number of times. Each message
remembers the row that it goes back to, so that the queues can be searched for the messages of a
domain event. -/
namespace MessagingPlatform.Broker
open Amqp Consumer

inductive PlatformEvent where
  | publishRow (service : Outbox.Service) (row : Outbox.OutboxEvent) (carrier : TraceCarrier)
  | consumer (event : Consumer.External)

/-- The work queue has no other publishers than the relays, the retry publisher and the broker. -/
def platformExternal (state : Consumer.State) : PlatformEvent → Option Consumer.State
  | .publishRow service row carrier =>
      let publication := service.relay.publication row.claimed carrier
      (declaredTopology.route publication.exchange publication.routingKey).map (fun queues =>
        state.enqueue queues ⟨publication.body,publication.headers,publication.routingKey⟩)
  | .consumer (.enqueue _ _) => none
  | .consumer event => state.external event

def platformWorld (settings : Settings) :
    World Consumer.State Thrown Consumer.Request Consumer.Reply Consumer.Choice PlatformEvent Consumer.Task where
  serve := Consumer.State.serve
  fails := Consumer.Request.fails
  crash state _ := state
  external := platformExternal
  start := (consumerWorld settings).start

structure Origin where
  service : Outbox.Service
  row : Outbox.OutboxEvent

def Origin.Domain (origin : Origin) : Prop := origin.row.eventType ∉ commandEventTypes

abbrev Origins := Nat → Option Origin

/-- A retry copy goes back to the row of the message that was delivered. -/
def Origins.note (origins : Origins) (state : Consumer.State) :
    Effect Consumer.Request Consumer.Choice PlatformEvent Consumer.Task → Origins
  | .external (.publishRow service row _) =>
      Function.update origins state.envelopes.length (some ⟨service,row⟩)
  | .external (.consumer (.route index)) =>
      Function.update origins state.envelopes.length
        ((state.publishes[index]?.bind (fun published => state.delivered published.publisher)).bind origins)
  | _ => origins

def tracedWorld (settings : Settings) :=
  (platformWorld settings).withGhost Origins.note

theorem declared_exclusive : declaredTopology.Exclusive := by decide

/-- A message keeps its tag when it moves. It moves along a dead-letter exchange, and it is handed
out in the work queue only. -/
structure Came (old copy : Copy) : Prop where
  tag : copy.tag = old.tag
  queue : copy.queue = old.queue ∨ ∃ key, copy.queue ∈ (declaredTopology.deadLetter old.queue key).1
  held : copy = old ∨ copy.unackedBy = none ∨ copy.queue = Queues.work

theorem Came.refl (copy : Copy) : Came copy copy := ⟨rfl,.inl rfl,.inl rfl⟩

structure Moved (before after : Consumer.State) : Prop where
  envelopes : after.envelopes = before.envelopes
  tags : (after.copies.map Copy.tag).Sublist (before.copies.map Copy.tag)
  came : ∀ copy ∈ after.copies, ∃ old ∈ before.copies, Came old copy
  delivered : ∀ pid tag, after.delivered pid = some tag → before.delivered pid = some tag ∨
    ∃ copy ∈ before.copies, copy.tag = tag ∧ copy.queue = Queues.work

structure Enqueued (queues : List String) (before after : Consumer.State) : Prop where
  envelopes : ∃ envelope, after.envelopes = before.envelopes ++ [envelope]
  copies : after.copies = before.copies ++ queues.map (fun queue => ⟨before.envelopes.length,queue,none⟩)
  delivered : after.delivered = before.delivered

variable {settings : Settings} {state before after : Consumer.State}

theorem Moved.of_copies (envelopes : after.envelopes = before.envelopes)
    (copies : after.copies = before.copies) (delivered : after.delivered = before.delivered) :
    Moved before after where
  envelopes := envelopes
  tags := by rw [copies]
  came := by
    intro copy member
    rw [copies] at member
    exact ⟨copy,member,.refl copy⟩
  delivered := by
    intro pid tag given
    rw [delivered] at given
    exact .inl given

theorem flatMap_tags {targets : Copy → List Copy} {copies : List Copy}
    (single : ∀ copy, ((targets copy).map Copy.tag).Sublist [copy.tag]) :
    ((copies.flatMap targets).map Copy.tag).Sublist (copies.map Copy.tag) := by
  induction copies with
  | nil => exact List.Sublist.refl _
  | cons copy rest ih =>
    rw [List.flatMap_cons,List.map_append,List.map_cons]
    exact (single copy).append ih

theorem Moved.replace {moves : Copy → Bool} {targets : Copy → List Copy}
    (single : ∀ copy, (targets copy).length ≤ 1)
    (came : ∀ old, moves old = true → ∀ copy ∈ targets old, Came old copy) :
    Moved state (state.replace moves targets) where
  envelopes := rfl
  tags := by
    apply flatMap_tags
    intro old
    by_cases moved : moves old = true
    · rw [if_pos moved]
      have atMost := single old
      have same := came old moved
      cases those : targets old with
      | nil => exact List.nil_sublist _
      | cons copy rest =>
        rw [those] at atMost same
        rw [List.length_cons] at atMost
        obtain rfl : rest = [] := List.length_eq_zero_iff.mp (by omega)
        rw [List.map_singleton,(same copy List.mem_cons_self).tag]
    · rw [if_neg moved]
      exact List.Sublist.refl _
  came := by
    intro copy member
    obtain ⟨old,present,here⟩ := State.mem_replace.mp member
    refine ⟨old,present,?_⟩
    split at here
    next moved => exact came old moved copy here
    next => exact here ▸ Came.refl old
  delivered _ _ given := .inl given

theorem Moved.drop (moves : Copy → Bool) : Moved state (state.replace moves (fun _ => [])) :=
  .replace (fun _ => Nat.zero_le 1) (fun _ _ _ member => by cases member)

theorem Moved.giveBack (moves : Copy → Bool) :
    Moved state (state.replace moves (fun copy => [{ copy with unackedBy := none }])) := by
  apply Moved.replace
  · intro copy
    exact Nat.le_refl 1
  · intro old _ copy member
    obtain rfl := List.mem_singleton.mp member
    exact ⟨rfl,.inl rfl,.inr (.inl rfl)⟩

theorem Moved.deadLetter (moves : Copy → Bool) : Moved state (state.replace moves state.deadLettered) := by
  apply Moved.replace
  · intro copy
    rw [State.deadLettered,List.length_map]
    exact declared_exclusive.deadLetter_length _ _
  · intro old _ copy member
    obtain ⟨queue,reached,rfl⟩ := List.mem_map.mp member
    exact ⟨rfl,.inr ⟨_,reached⟩,.inr (.inl rfl)⟩

theorem Moved.settle {pid : Nat} {received : Bool} {targets : Copy → List Copy} {reply : Except Thrown Unit}
    (settled : before.settle pid received targets = some (reply,after))
    (moved : Moved before (before.replace (State.heldBy pid) targets)) : Moved before after := by
  obtain ⟨_,rfl⟩ := State.settle_eq settled
  cases received with
  | true => exact moved
  | false => exact .of_copies rfl rfl rfl

theorem serve_moved {pid : Nat} {request : Consumer.Request} {choice : Consumer.Choice}
    {reply : Except Thrown (Consumer.Reply request)}
    (served : before.serve pid request choice = some (reply,after)) : Moved before after := by
  cases apart : request.brokers with
  | false =>
    have same := State.serve_sameBroker apart served
    exact .of_copies same.envelopes same.copies same.delivered
  | true =>
    cases request with
    | publish channel publication =>
      obtain rfl := State.serve_publish served
      exact .of_copies rfl rfl rfl
    | ack => exact .settle served (.drop _)
    | nack requeue =>
      cases requeue with
      | true => exact .settle served (.giveBack _)
      | false => exact .settle served (.deadLetter _)
    | lifecycle _ | recordAttempt _ | clearAttempts _ | connect | startTransaction
    | saveProcessedEvent _ | saveMessage _ | saveOutboxEvent _ | commitTransaction
    | rollbackTransaction | release | newDate | randomUUID | inject | getChannel
    | waitForConfirms _ | count _ => cases apart

theorem deliver_moved {pid tag : Nat} {program : Consumer.Program Unit}
    (started : before.deliver settings pid tag = some (program,after)) : Moved before after := by
  have ready : ∃ copy ∈ before.copies, State.readyIn Queues.work tag copy = true := by
    unfold State.deliver at started
    split at started
    next =>
      split at started
      next found => exact List.any_eq_true.mp found
      next => cases started
    next => cases started
  obtain ⟨copy,member,ready⟩ := ready
  obtain ⟨sameTag,queue,_⟩ := State.readyIn_iff.mp ready
  obtain ⟨_,rfl⟩ := State.deliver_eq started
  have handed : Moved before (before.replace (State.readyIn Queues.work tag)
      (fun copy => [{ copy with unackedBy := some pid }])) := by
    apply Moved.replace
    · intro copy
      exact Nat.le_refl 1
    · intro old moved copy member
      obtain rfl := List.mem_singleton.mp member
      exact ⟨rfl,.inl rfl,.inr (.inr (State.readyIn_iff.mp moved).2.1)⟩
  refine ⟨handed.envelopes,handed.tags,handed.came,?_⟩
  intro other otherTag given
  by_cases same : other = pid
  · subst same
    have own : some tag = some otherTag := by simpa using given
    obtain rfl := Option.some.inj own
    exact .inr ⟨copy,member,sameTag,queue⟩
  · exact .inl (by simpa [Function.update_of_ne same] using given)

theorem Enqueued.of_enqueue (queues : List String) (envelope : Envelope) :
    Enqueued queues state (state.enqueue queues envelope) := ⟨⟨envelope,rfl⟩,rfl,rfl⟩

/-- Apart from the relays, only a retry copy that is routed enqueues a message. -/
theorem external_traffic {event : Consumer.External} (happened : before.external event = some after)
    (own : ∀ body headers, event ≠ .enqueue body headers) : Moved before after ∨
      ∃ index queues, event = .route index ∧ Enqueued queues before after ∧ queues.length ≤ 1 := by
  cases event with
  | enqueue body headers => exact absurd rfl (own body headers)
  | route index =>
    simp only [State.external] at happened
    split at happened
    next published found =>
      split at happened
      next =>
        split at happened
        next queues routed =>
          obtain rfl := Option.some.inj happened
          exact .inr ⟨index,queues,rfl,⟨⟨_,rfl⟩,rfl,rfl⟩,declared_exclusive.route_length routed⟩
        next =>
          obtain rfl := Option.some.inj happened
          exact .inl (.of_copies rfl rfl rfl)
      next => cases happened
    next => cases happened
  | reject index =>
    simp only [State.external] at happened
    split at happened
    next =>
      split at happened
      next =>
        obtain rfl := Option.some.inj happened
        exact .inl (.of_copies rfl rfl rfl)
      next => cases happened
    next => cases happened
  | requeue tag =>
    obtain rfl := Option.some.inj happened
    exact .inl (.giveBack _)
  | expire tag =>
    obtain rfl := Option.some.inj happened
    exact .inl (.deadLetter _)
  | rejectUnmatched tag =>
    simp only [State.external,Option.ite_none_right_eq_some,Option.some.injEq] at happened
    obtain ⟨_,rfl⟩ := happened
    exact .inl (.deadLetter _)
  | handleTestRabbit tag acked =>
    simp only [State.external,Option.ite_none_right_eq_some,Option.some.injEq] at happened
    obtain ⟨_,rfl⟩ := happened
    cases acked with
    | true => exact .inl (.drop _)
    | false => exact .inl (.deadLetter _)
  | logDlq tag =>
    obtain rfl := Option.some.inj happened
    have dropped : Moved before (before.replace (State.readyIn Queues.dlq tag) (fun _ => [])) := .drop _
    exact .inl ⟨dropped.envelopes,dropped.tags,dropped.came,dropped.delivered⟩
  | abort pid =>
    obtain rfl := Option.some.inj happened
    exact .inl (.of_copies rfl rfl rfl)

/-- A queue whose messages go nowhere when they are rejected or expire. -/
def Terminal (queue : String) : Prop := ∀ key, (declaredTopology.deadLetter queue key).1 = []

theorem eventsAudit_terminal : Terminal Queues.eventsAudit := fun _ => rfl

theorem dlq_terminal : Terminal Queues.dlq := fun _ => rfl

structure Confined (queue : String) (tag : Nat) (state : Consumer.State) : Prop where
  known : tag < state.envelopes.length
  here : ∀ copy ∈ state.copies, copy.tag = tag → copy.queue = queue

theorem Confined.moved {queue : String} {tag : Nat} (terminal : Terminal queue)
    (confined : Confined queue tag before) (moved : Moved before after) : Confined queue tag after where
  known := by
    rw [moved.envelopes]
    exact confined.known
  here := by
    intro copy member same
    obtain ⟨old,present,came⟩ := moved.came copy member
    have here : old.queue = queue := confined.here old present (came.tag.symm.trans same)
    rcases came.queue with still | ⟨key,reached⟩
    · exact still.trans here
    · rw [here,terminal key] at reached
      cases reached

theorem Confined.enqueued {queue : String} {tag : Nat} {queues : List String}
    (confined : Confined queue tag before) (enqueued : Enqueued queues before after) :
    Confined queue tag after where
  known := by
    obtain ⟨envelope,grown⟩ := enqueued.envelopes
    rw [grown,List.length_append]
    exact Nat.lt_add_right _ confined.known
  here := by
    intro copy member same
    rw [enqueued.copies] at member
    rcases List.mem_append.mp member with old | new
    · exact confined.here copy old same
    · obtain ⟨_,_,rfl⟩ := List.mem_map.mp new
      exact absurd same (Nat.ne_of_gt confined.known)

structure Isolated (state : Consumer.State) (origins : Origins) : Prop where
  bounded : ∀ copy ∈ state.copies, copy.tag < state.envelopes.length
  distinct : (state.copies.map Copy.tag).Nodup
  held : ∀ copy ∈ state.copies, copy.unackedBy = none ∨ copy.queue = Queues.work
  delivered : ∀ pid tag, state.delivered pid = some tag → tag < state.envelopes.length ∧
    ∀ origin, origins tag = some origin → ¬ origin.Domain
  domain : ∀ tag origin, tag < state.envelopes.length → origins tag = some origin → origin.Domain →
    Confined Queues.eventsAudit tag state

theorem Isolated.moved {origins noted : Origins} (isolated : Isolated before origins)
    (moved : Moved before after) (same : ∀ tag, tag < before.envelopes.length → noted tag = origins tag) :
    Isolated after noted where
  bounded := by
    intro copy member
    obtain ⟨old,present,came⟩ := moved.came copy member
    rw [came.tag,moved.envelopes]
    exact isolated.bounded old present
  distinct := isolated.distinct.sublist moved.tags
  held := by
    intro copy member
    obtain ⟨old,present,came⟩ := moved.came copy member
    rcases came.held with rfl | ready | work
    · exact isolated.held copy present
    · exact .inl ready
    · exact .inr work
  delivered := by
    intro pid tag given
    rw [moved.envelopes]
    rcases moved.delivered pid tag given with old | ⟨copy,member,rfl,queue⟩
    · obtain ⟨known,command⟩ := isolated.delivered pid tag old
      exact ⟨known,fun origin noted => command origin ((same tag known).symm.trans noted)⟩
    · have known := isolated.bounded copy member
      refine ⟨known,?_⟩
      intro origin noted domain
      have audit := (isolated.domain copy.tag origin known ((same copy.tag known).symm.trans noted)
        domain).here copy member rfl
      exact absurd (queue.symm.trans audit) (by decide)
  domain := by
    intro tag origin known noted domain
    rw [moved.envelopes] at known
    exact (isolated.domain tag origin known ((same tag known).symm.trans noted) domain).moved
      eventsAudit_terminal moved

theorem Isolated.enqueued {origins : Origins} {origin : Option Origin} {queues : List String}
    (isolated : Isolated before origins) (enqueued : Enqueued queues before after)
    (single : queues.length ≤ 1)
    (audit : ∀ row, origin = some row → row.Domain → ∀ queue ∈ queues, queue = Queues.eventsAudit) :
    Isolated after (Function.update origins before.envelopes.length origin) := by
  obtain ⟨envelope,grown⟩ := enqueued.envelopes
  have length : after.envelopes.length = before.envelopes.length + 1 := by
    rw [grown,List.length_append,List.length_singleton]
  have older : ∀ tag, tag < before.envelopes.length →
      Function.update origins before.envelopes.length origin tag = origins tag :=
    fun tag known => Function.update_of_ne (Nat.ne_of_lt known) _ _
  have either : ∀ copy ∈ after.copies, copy ∈ before.copies ∨
      ∃ queue ∈ queues, copy = ⟨before.envelopes.length,queue,none⟩ := by
    intro copy member
    rw [enqueued.copies] at member
    rcases List.mem_append.mp member with old | new
    · exact .inl old
    · obtain ⟨queue,target,rfl⟩ := List.mem_map.mp new
      exact .inr ⟨queue,target,rfl⟩
  constructor
  · intro copy member
    rw [length]
    rcases either copy member with old | ⟨queue,_,rfl⟩
    · exact Nat.lt_succ_of_lt (isolated.bounded copy old)
    · exact Nat.lt_succ_self _
  · rw [enqueued.copies,List.map_append,List.map_map,List.nodup_append]
    refine ⟨isolated.distinct,?_,?_⟩
    · cases queues with
      | nil => exact List.nodup_nil
      | cons queue rest =>
        rw [List.length_cons] at single
        obtain rfl : rest = [] := List.length_eq_zero_iff.mp (by omega)
        exact List.nodup_singleton _
    · intro tag old new fresh same
      obtain ⟨copy,member,rfl⟩ := List.mem_map.mp old
      obtain ⟨queue,_,rfl⟩ := List.mem_map.mp fresh
      exact absurd same (Nat.ne_of_lt (isolated.bounded copy member))
  · intro copy member
    rcases either copy member with old | ⟨queue,_,rfl⟩
    · exact isolated.held copy old
    · exact .inl rfl
  · intro pid tag given
    rw [enqueued.delivered] at given
    obtain ⟨known,command⟩ := isolated.delivered pid tag given
    rw [length]
    refine ⟨Nat.lt_succ_of_lt known,?_⟩
    intro row noted
    rw [older tag known] at noted
    exact command row noted
  · intro tag row known noted domain
    by_cases old : tag < before.envelopes.length
    · rw [older tag old] at noted
      exact (isolated.domain tag row old noted domain).enqueued enqueued
    · obtain rfl : tag = before.envelopes.length := by omega
      rw [Function.update_self] at noted
      refine ⟨known,?_⟩
      intro copy member same
      rcases either copy member with old | ⟨queue,target,rfl⟩
      · exact absurd same (Nat.ne_of_lt (isolated.bounded copy old))
      · exact audit row noted domain queue target

theorem domain_routed {service : Outbox.Service} {row : Outbox.OutboxEvent} {carrier : TraceCarrier}
    {queues : List String} (domain : row.eventType ∉ commandEventTypes)
    (routed : declaredTopology.route (service.relay.publication row.claimed carrier).exchange
      (service.relay.publication row.claimed carrier).routingKey = some queues) :
    queues = [Queues.eventsAudit] := by
  have route : resolveOutboxRoute row.claimed.eventType = ⟨Exchanges.events,"",.domainEvent⟩ :=
    if_neg domain
  have exchange : (service.relay.publication row.claimed carrier).exchange = Exchanges.events := by
    change (resolveOutboxRoute row.claimed.eventType).exchange = Exchanges.events
    rw [route]
  have key : (service.relay.publication row.claimed carrier).routingKey = "" := by
    change (resolveOutboxRoute row.claimed.eventType).routingKey = ""
    rw [route]
  rw [exchange,key] at routed
  exact (Option.some.inj routed).symm

theorem platform_consumer {event : Consumer.External}
    (happened : platformExternal before (.consumer event) = some after) :
    before.external event = some after ∧ ∀ body headers, event ≠ .enqueue body headers := by
  cases event with
  | enqueue body headers => cases happened
  | route _ | reject _ | requeue _ | expire _ | rejectUnmatched _ | handleTestRabbit _ _ | logDlq _
  | abort _ =>
    refine ⟨happened,?_⟩
    intro body headers same
    cases same

theorem Isolated.external {origins : Origins} {event : PlatformEvent} (isolated : Isolated before origins)
    (happened : platformExternal before event = some after) :
    Isolated after (origins.note before (.external event)) := by
  cases event with
  | publishRow service row carrier =>
    obtain ⟨queues,routed,rfl⟩ := Option.map_eq_some_iff.mp happened
    apply isolated.enqueued (.of_enqueue queues _) (declared_exclusive.route_length routed)
    intro origin same domain queue member
    obtain rfl := Option.some.inj same
    rw [domain_routed domain routed] at member
    exact List.mem_singleton.mp member
  | consumer event =>
    obtain ⟨performed,own⟩ := platform_consumer happened
    rcases external_traffic performed own with moved | ⟨index,queues,rfl,enqueued,single⟩
    · apply isolated.moved moved
      intro tag known
      cases event with
      | route index => exact Function.update_of_ne (Nat.ne_of_lt known) _ _
      | enqueue _ _ | reject _ | requeue _ | expire _ | rejectUnmatched _ | handleTestRabbit _ _
      | logDlq _ | abort _ => rfl
    · apply isolated.enqueued enqueued single
      intro origin same domain
      -- A retry copy is that of a delivered message, and none of these is a domain event.
      obtain ⟨tag,delivered,noted⟩ := Option.bind_eq_some_iff.mp same
      obtain ⟨published,_,given⟩ := Option.bind_eq_some_iff.mp delivered
      exact absurd domain ((isolated.delivered published.publisher tag given).2 origin noted)

def Traced (state : Consumer.State × Origins) : Prop := Isolated state.1 state.2

theorem Traced.step {pool after : Pool (Consumer.State × Origins) Thrown Consumer.Request Consumer.Reply}
    {action : World.Action Consumer.Choice Thrown PlatformEvent Consumer.Task} (traced : Traced pool.shared)
    (taken : (tracedWorld settings).step pool action = some after) : Traced after.shared := by
  apply World.step_keeps _ _ _ _ traced taken
  · intro state pid request choice reply after isolated served
    obtain ⟨performed,noted⟩ := World.withGhost_serve served
    unfold Traced
    rw [noted]
    exact Isolated.moved isolated (serve_moved performed) (fun _ _ => rfl)
  · intro state pid isolated
    exact isolated
  · intro state event after isolated happened
    obtain ⟨next,performed,rfl⟩ := Option.map_eq_some_iff.mp happened
    exact Isolated.external isolated performed
  · intro state fresh task program after isolated started
    obtain ⟨⟨own,next⟩,launched,same⟩ := Option.map_eq_some_iff.mp started
    obtain ⟨_,rfl⟩ := Prod.mk.inj same
    cases task with
    | deliver tag => exact Isolated.moved isolated (deliver_moved launched) (fun _ _ => rfl)

theorem Confined.step {tag : Nat} {pool after : Pool (Consumer.State × Origins) Thrown Consumer.Request Consumer.Reply}
    {action : World.Action Consumer.Choice Thrown PlatformEvent Consumer.Task}
    (dead : Confined Queues.dlq tag pool.shared.1)
    (taken : (tracedWorld settings).step pool action = some after) : Confined Queues.dlq tag after.shared.1 := by
  apply @World.step_keeps _ _ _ _ _ _ _ (tracedWorld settings) (fun state => Confined Queues.dlq tag state.1)
    _ _ _ _ _ _ _ dead taken
  · intro state pid request choice reply after dead served
    exact dead.moved dlq_terminal (serve_moved (World.withGhost_serve served).1)
  · intro state pid dead
    exact dead
  · intro state event after dead happened
    obtain ⟨next,performed,rfl⟩ := Option.map_eq_some_iff.mp happened
    cases event with
    | publishRow service row carrier =>
      obtain ⟨queues,_,rfl⟩ := Option.map_eq_some_iff.mp performed
      exact dead.enqueued (.of_enqueue queues _)
    | consumer event =>
      obtain ⟨performed,own⟩ := platform_consumer performed
      rcases external_traffic performed own with moved | ⟨_,queues,_,enqueued,_⟩
      · exact dead.moved dlq_terminal moved
      · exact dead.enqueued enqueued
  · intro state fresh task program after dead started
    obtain ⟨⟨own,next⟩,launched,same⟩ := Option.map_eq_some_iff.mp started
    obtain ⟨_,rfl⟩ := Prod.mk.inj same
    cases task with
    | deliver tag => exact dead.moved dlq_terminal (deliver_moved launched)

inductive Rejects : Happening Consumer.Request Consumer.Choice Thrown PlatformEvent Consumer.Task →
    Copy → Prop
  | nack {pid answer choice copy} (effective : answer.choice? = some choice)
      (received : choice.received = true) (held : State.heldBy pid copy = true) :
      Rejects (.performs pid (.nack false) answer) copy
  | unmatched {tag copy} (ready : State.readyIn Queues.work tag copy = true) :
      Rejects (.external (.consumer (.rejectUnmatched tag))) copy
  | testRabbit {tag copy} (ready : State.readyIn Queues.work tag copy = true) :
      Rejects (.external (.consumer (.handleTestRabbit tag false))) copy

theorem filter_tag {copies : List Copy} {copy : Copy} (distinct : (copies.map Copy.tag).Nodup)
    (member : copy ∈ copies) : copies.filter (fun other => other.tag == copy.tag) = [copy] := by
  induction copies with
  | nil => cases member
  | cons first rest ih =>
    rw [List.map_cons,List.nodup_cons] at distinct
    rcases List.mem_cons.mp member with rfl | later
    · have others : rest.filter (fun other => other.tag == copy.tag) = [] := by
        rw [List.filter_eq_nil_iff]
        intro other present same
        exact distinct.1 (List.mem_map.mpr ⟨other,present,beq_iff_eq.mp same⟩)
      rw [List.filter_cons,if_pos (beq_self_eq_true copy.tag),others]
    · have apart : ¬ (first.tag == copy.tag) = true := by
        intro same
        exact distinct.1 (List.mem_map.mpr ⟨copy,later,(beq_iff_eq.mp same).symm⟩)
      rw [List.filter_cons,if_neg apart,ih distinct.2 later]

/-- A rejected message of the work queue has one copy afterwards, in the dead-letter queue. -/
theorem replace_rejected {moves : Copy → Bool} {copy : Copy} (member : copy ∈ state.copies)
    (moved : moves copy = true) (queue : copy.queue = Queues.work)
    (distinct : ((state.replace moves state.deadLettered).copies.map Copy.tag).Nodup) :
    (state.replace moves state.deadLettered).copies.filter (fun other => other.tag == copy.tag) =
      [⟨copy.tag,Queues.dlq,none⟩] := by
  have dead : (⟨copy.tag,Queues.dlq,none⟩ : Copy) ∈ (state.replace moves state.deadLettered).copies := by
    rw [State.mem_replace]
    refine ⟨copy,member,?_⟩
    rw [if_pos moved,State.deadLettered_work queue]
    exact List.mem_singleton.mpr rfl
  exact filter_tag distinct dead

theorem rejected_once {pool after : Pool (Consumer.State × Origins) Thrown Consumer.Request Consumer.Reply}
    {action : World.Action Consumer.Choice Thrown PlatformEvent Consumer.Task}
    {event : Happening Consumer.Request Consumer.Choice Thrown PlatformEvent Consumer.Task} {copy : Copy}
    (traced : Traced pool.shared) (taken : (tracedWorld settings).step pool action = some after)
    (happens : (tracedWorld settings).happening pool action = some event)
    (member : copy ∈ pool.shared.1.copies) (rejects : Rejects event copy) :
    after.shared.1.copies.filter (fun other => other.tag == copy.tag) = [⟨copy.tag,Queues.dlq,none⟩] := by
  have distinct := (Traced.step traced taken).distinct
  cases action with
  | resume pid answer =>
    obtain ⟨request,_,reply,_,event,answered,_⟩ := World.step_resume taken
    obtain rfl := Option.some.inj (event.symm.trans happens)
    cases rejects with
    | @nack _ _ choice _ effective received held =>
      have work : copy.queue = Queues.work := by
        rcases traced.held copy member with ready | work
        · rw [State.heldBy_iff.mp held] at ready
          cases ready
        · exact work
      rcases World.answer_cases answered with ⟨own,served,given,performed,_⟩ | ⟨_,none,_⟩
      · obtain rfl := Option.some.inj (effective.symm.trans given)
        obtain ⟨_,same⟩ := State.settle_eq (World.withGhost_serve performed).1
        rw [received,if_pos rfl] at same
        rw [same] at distinct ⊢
        exact replace_rejected member held work distinct
      · rw [effective] at none
        cases none
  | external event =>
    obtain rfl := Option.some.inj happens
    obtain ⟨state,happened,rfl⟩ := Option.map_eq_some_iff.mp taken
    obtain ⟨next,performed,rfl⟩ := Option.map_eq_some_iff.mp happened
    cases rejects with
    | @unmatched tag _ ready =>
      have effect : pool.shared.1.external (.rejectUnmatched tag) = some next := performed
      simp only [State.external,Option.ite_none_right_eq_some,Option.some.injEq] at effect
      obtain ⟨_,rfl⟩ := effect
      exact replace_rejected member ready (State.readyIn_iff.mp ready).2.1 distinct
    | @testRabbit tag _ ready =>
      have effect : pool.shared.1.external (.handleTestRabbit tag false) = some next := performed
      simp only [State.external,Option.ite_none_right_eq_some,Option.some.injEq] at effect
      obtain ⟨_,rfl⟩ := effect
      exact replace_rejected member ready (State.readyIn_iff.mp ready).2.1 distinct
  | crash pid =>
    obtain rfl := Option.some.inj happens
    cases rejects
  | start task =>
    obtain rfl := Option.some.inj happens
    cases rejects

def PlatformReach (settings : Settings)
    (pool : Pool (Consumer.State × Origins) Thrown Consumer.Request Consumer.Reply) : Prop :=
  (tracedWorld settings).Reach (fun _ _ => True) (.initial,fun _ => none) pool

theorem PlatformReach.traced {pool : Pool (Consumer.State × Origins) Thrown Consumer.Request Consumer.Reply}
    (reached : PlatformReach settings pool) : Traced pool.shared := by
  apply Machine.Reaches.invariant reached
  · constructor
    · intro copy member
      cases member
    · exact List.nodup_nil
    · intro copy member
      cases member
    · intro pid tag given
      cases given
    · intro tag origin known
      cases known
  · intro pool action after traced _ taken
    exact traced.step taken

/-- No message of a domain event is ever in a command queue; a message that is rejected without
requeue has exactly one copy afterwards, in the dead-letter queue; and a dead message never comes
back, whatever happens later. -/
theorem domain_events_isolated (settings : Settings)
    {pool : Pool (Consumer.State × Origins) Thrown Consumer.Request Consumer.Reply}
    (reached : PlatformReach settings pool) :
    (∀ copy ∈ pool.shared.1.copies, ∀ origin, pool.shared.2 copy.tag = some origin →
      origin.row.eventType ∉ commandEventTypes → copy.queue ∉ [Queues.work,Queues.retry,Queues.dlq]) ∧
    (∀ action after event copy, (tracedWorld settings).step pool action = some after →
      (tracedWorld settings).happening pool action = some event → copy ∈ pool.shared.1.copies →
      Rejects event copy → after.shared.1.copies.filter (fun other => other.tag == copy.tag) =
        [⟨copy.tag,Queues.dlq,none⟩]) ∧
    ∀ copy ∈ pool.shared.1.copies, copy.queue = Queues.dlq → ∀ later,
      Machine.Reaches (tracedWorld settings).step ((tracedWorld settings).Permits (fun _ _ => True)) pool later →
      ∀ other ∈ later.shared.1.copies, other.tag = copy.tag →
        other.queue ≠ Queues.work ∧ other.queue ≠ Queues.retry := by
  have traced := reached.traced
  refine ⟨?_,?_,?_⟩
  · intro copy member origin noted domain
    have audit := (traced.domain copy.tag origin (traced.bounded copy member) noted domain).here copy
      member rfl
    rw [audit]
    decide
  · intro action after event copy taken happens member rejects
    exact rejected_once traced taken happens member rejects
  · intro copy member dead later onward other present same
    have confined : Confined Queues.dlq copy.tag pool.shared.1 := by
      refine ⟨traced.bounded copy member,?_⟩
      intro twin there equal
      have identical : twin = copy := List.inj_on_of_nodup_map traced.distinct there member equal
      rw [identical,dead]
    have still : Confined Queues.dlq copy.tag later.shared.1 := by
      apply Machine.Reaches.invariant onward confined
      intro state action after before _ taken
      exact before.step taken
    rw [still.here other present same]
    decide

/-- A command and a domain event are published; the command is delivered and rejected. -/
def rejectedCommand : List (World.Action Consumer.Choice Thrown PlatformEvent Consumer.Task) := [
  .external (.publishRow .messaging ((Outbox.Recorded.mk 1 "MessagePersisted" .null none 5 none none).row 0) []),
  .external (.publishRow .gateway ((Outbox.Recorded.mk 1 "CreateMessageEvent.v1" .null none 5 none none).row 0) []),
  .external (.consumer (.rejectUnmatched 1))]

set_option maxRecDepth 4000 in
theorem rejected_command_dead : ∃ pool,
    Machine.run (tracedWorld sampleSettings).step (World.empty (.initial,fun _ => none)) rejectedCommand =
      some pool ∧ pool.shared.1.copies = [⟨0,Queues.eventsAudit,none⟩,⟨1,Queues.dlq,none⟩] ∧
    ∀ copy ∈ pool.shared.1.copies, ∀ origin, pool.shared.2 copy.tag = some origin →
      origin.row.eventType ∉ commandEventTypes → copy.queue ∉ [Queues.work,Queues.retry,Queues.dlq] := by
  let ran := Machine.run (tracedWorld sampleSettings).step (World.empty (.initial,fun _ => none)) rejectedCommand
  let pool := ran.get (by decide)
  have same : ran = some pool := (Option.some_get _).symm
  have reached : PlatformReach sampleSettings pool := Machine.run_reaches same (by decide)
  exact ⟨pool,same,by decide,(domain_events_isolated sampleSettings reached).1⟩

end MessagingPlatform.Broker
