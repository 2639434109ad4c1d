import MessagingPlatform.Consumer.Retention

/-! No event is lost: a delivery acks its message only when the event has been processed, or when
it knows of a later message of the event. -/
namespace MessagingPlatform.Consumer

structure RetryPublish.Of (settings : Settings) (pid channel : Nat) (view : View)
    (published : RetryPublish) : Prop where
  publisher : published.publisher = pid
  channel : published.channel = channel
  since : view.tag < published.since
  retries : Retries settings view published.publication

structure Aware (settings : Settings) (pid : Nat) (state : State) (view : View) : Prop where
  informed : Informed settings pid state view
  body : ∃ envelope, state.envelopes[view.tag]? = some envelope ∧ envelope.body = view.body
  written : ∀ channel publication, view.written = some (channel,publication) →
    ∃ published ∈ state.publishes, published.Of settings pid channel view
  scheduled : view.scheduled = true → ∀ eventId, view.eventId = some eventId →
    ∃ tag, view.tag < tag ∧ state.Carries settings tag view.body eventId

variable {settings : Settings} {fresh pid : Nat} {state before after : State} {view : View}

def Request.brokers : Request → Bool
  | .publish _ _ | .ack | .nack _ => true
  | .lifecycle _ | .recordAttempt _ | .clearAttempts _ | .connect | .startTransaction
  | .saveProcessedEvent _ | .saveMessage _ | .saveOutboxEvent _ | .commitTransaction
  | .rollbackTransaction | .release | .newDate | .randomUUID | .inject | .getChannel
  | .waitForConfirms _ | .count _ => false

theorem State.serve_sameBroker {request : Request} {choice : Choice} {reply : Except Thrown (Reply request)}
    (apart : request.brokers = false) (served : before.serve pid request choice = some (reply,after)) :
    SameBroker before after := by
  cases request with
  | publish _ _ | ack | nack _ => cases apart
  | lifecycle _ | recordAttempt _ | clearAttempts _ | connect | rollbackTransaction | release | newDate
  | randomUUID | getChannel | count _ =>
    obtain ⟨_,rfl⟩ := Prod.mk.inj (Option.some.inj served)
    exact ⟨rfl,rfl,rfl,rfl,rfl⟩
  | startTransaction =>
    simp only [serve] at served
    split at served
    next =>
      obtain ⟨_,rfl⟩ := Prod.mk.inj (Option.some.inj served)
      exact ⟨rfl,rfl,rfl,rfl,rfl⟩
    next => cases served
  | saveProcessedEvent row =>
    rcases serve_saveProcessedEvent served with ⟨_,rfl,_⟩ | ⟨_,rfl,_⟩
    · exact ⟨rfl,rfl,rfl,rfl,rfl⟩
    · exact ⟨rfl,rfl,rfl,rfl,rfl⟩
  | saveMessage _ | saveOutboxEvent _ | commitTransaction | inject | waitForConfirms _ =>
    simp only [serve,Option.ite_none_right_eq_some,Option.some.injEq,Prod.mk.injEq] at served
    obtain ⟨_,_,rfl⟩ := served
    exact ⟨rfl,rfl,rfl,rfl,rfl⟩

theorem State.heldBy_iff {copy : Copy} : heldBy pid copy = true ↔ copy.unackedBy = some pid := beq_iff_eq

theorem Conserved.ack (conserved : Conserved settings fresh state)
    (aware : Aware settings pid state view) (safe : view.Safe) :
    Conserved settings fresh (state.replace (State.heldBy pid) (fun _ => [])) := by
  refine conserved.drop ?_
  intro copy member held body eventId carries
  obtain ⟨_,_,delivered⟩ := (conserved.placed copy member).held pid (State.heldBy_iff.mp held)
  have own : copy.tag = view.tag := Option.some.inj (delivered.symm.trans aware.informed.delivered)
  have event : view.eventId = some eventId := by
    rw [← aware.informed.carries,← own]
    exact carries.carriedBy
  have content : view.body = body := by
    obtain ⟨envelope,found,same⟩ := aware.body
    obtain ⟨other,there,body,_⟩ := carries
    rw [own,found] at there
    obtain rfl := Option.some.inj there
    exact same.symm.trans body
  have concluded : view.phase = .committed ∨ view.phase = .duplicate → state.Processed eventId := by
    intro phase
    obtain ⟨other,same,processed⟩ := aware.informed.concluded phase
    obtain rfl := Option.some.inj (event.symm.trans same)
    exact processed
  rcases safe with none | committed | duplicate | scheduled
  · exact absurd (none.symm.trans event) (by simp)
  · exact .inl (concluded (.inl committed))
  · exact .inl (concluded (.inr duplicate))
  · -- The retry copy is a later message, and what has become of it is not the delivery's message.
    obtain ⟨tag,later,copied⟩ := aware.scheduled scheduled eventId event
    rw [content] at copied
    rcases conserved.kept tag body eventId copied with processed | ⟨next,has,after,carried⟩
    · exact .inl processed
    · have above : copy.tag < next.tag := own ▸ Nat.lt_of_lt_of_le later after
      refine .inr ⟨next,?_,above.le,carried⟩
      rcases has.replace (State.heldBy pid) (fun _ => []) with stays | ⟨present,mine⟩
      · exact stays
      · obtain ⟨_,_,same⟩ := (conserved.placed next present).held pid (State.heldBy_iff.mp mine)
        have equal : next.tag = copy.tag := Option.some.inj (same.symm.trans delivered)
        omega

theorem Conserved.settle (conserved : Conserved settings fresh before) {received : Bool}
    {targets : Copy → List Copy} {reply : Except Thrown Unit}
    (settled : before.settle pid received targets = some (reply,after))
    (moved : Conserved settings fresh (before.replace (State.heldBy pid) targets)) :
    Conserved settings fresh after := by
  obtain ⟨_,rfl⟩ := State.settle_eq settled
  cases received with
  | true => exact moved
  | false => exact conserved

theorem Conserved.publish (conserved : Conserved settings fresh state) {channel : Nat}
    {publication : Publication} (retries : Retries settings view publication) :
    Conserved settings fresh { state with
      publishes := state.publishes ++ [⟨pid,channel,publication,state.envelopes.length,.inFlight⟩] } where
  consistent := conserved.consistent.same ⟨rfl,rfl,rfl⟩
  placed := conserved.placed
  backed := by
    intro published member
    rcases List.mem_append.mp member with old | new
    · exact (conserved.backed published old).congr rfl
    · rw [List.mem_singleton.mp new]
      exact ⟨retries.exchange,retries.routingKey,Nat.le_refl _,fun taken => nomatch taken⟩
  kept := conserved.kept

theorem Conserved.serve (conserved : Conserved settings fresh before) (below : pid < fresh)
    (aware : Aware settings pid before view) {request : Request} {choice : Choice}
    {reply : Except Thrown (Reply request)} (allowed : (discipline settings).allows view request)
    (served : before.serve pid request choice = some (reply,after)) : Conserved settings fresh after := by
  have consistent := conserved.consistent.serve below aware.informed allowed served
  cases apart : request.brokers with
  | false =>
    have change := State.serve_changes served
    exact conserved.same (State.serve_sameBroker apart served) consistent (fun _ => change.processed)
  | true =>
    cases request with
    | publish channel publication =>
      obtain ⟨_,rfl⟩ := Prod.mk.inj (Option.some.inj served)
      exact conserved.publish allowed
    | ack => exact conserved.settle served (conserved.ack aware allowed)
    | nack requeue =>
      cases requeue with
      | true => exact conserved.settle served (conserved.giveBack _)
      | false =>
        refine conserved.settle served (conserved.deadLetter Queues.dlq (by simp [commandQueues]) ?_)
        intro copy member held
        exact State.deadLettered_held (conserved.placed copy member) held
    | lifecycle _ | recordAttempt _ | clearAttempts _ | connect | startTransaction
    | saveProcessedEvent _ | saveMessage _ | saveOutboxEvent _ | commitTransaction
    | rollbackTransaction | release | newDate | randomUUID | inject | getChannel
    | waitForConfirms _ | count _ => cases apart

structure KeepsMessages (before after : State) : Prop where
  envelopes : ∃ added, after.envelopes = before.envelopes ++ added
  publishes : ∀ published ∈ before.publishes, ∃ fate, { published with fate } ∈ after.publishes

theorem KeepsMessages.same (envelopes : after.envelopes = before.envelopes)
    (publishes : after.publishes = before.publishes) : KeepsMessages before after where
  envelopes := ⟨[],envelopes.trans (List.append_nil _).symm⟩
  publishes published member := ⟨published.fate,publishes ▸ member⟩

theorem State.settlePublish_keeps {index : Nat} {published : RetryPublish} (fate : Fate)
    (found : state.publishes[index]? = some published) :
    KeepsMessages state (state.settlePublish index published fate) where
  envelopes := ⟨[],(List.append_nil _).symm⟩
  publishes := by
    intro other member
    obtain ⟨place,there⟩ := List.mem_iff_getElem?.mp member
    by_cases same : index = place
    · subst same
      obtain rfl := Option.some.inj (found.symm.trans there)
      have bound := (List.getElem?_eq_some_iff.mp found).1
      exact ⟨fate,List.mem_set bound _⟩
    · refine ⟨other.fate,List.mem_iff_getElem?.mpr ⟨place,?_⟩⟩
      exact (List.getElem?_set_ne same).trans there

theorem State.serve_keeps {request : Request} {choice : Choice} {reply : Except Thrown (Reply request)}
    (served : before.serve pid request choice = some (reply,after)) : KeepsMessages before after := by
  cases apart : request.brokers with
  | false =>
    have broker := State.serve_sameBroker apart served
    exact .same broker.envelopes broker.publishes
  | true =>
    cases request with
    | publish channel publication =>
      obtain ⟨_,rfl⟩ := Prod.mk.inj (Option.some.inj served)
      exact ⟨⟨[],(List.append_nil _).symm⟩,fun published member =>
        ⟨published.fate,List.mem_append_left _ member⟩⟩
    | ack =>
      obtain ⟨_,rfl⟩ := State.settle_eq served
      split <;> exact .same rfl rfl
    | nack requeue =>
      cases requeue <;> obtain ⟨_,rfl⟩ := State.settle_eq served <;> split <;> exact .same rfl rfl
    | lifecycle _ | recordAttempt _ | clearAttempts _ | connect | startTransaction
    | saveProcessedEvent _ | saveMessage _ | saveOutboxEvent _ | commitTransaction
    | rollbackTransaction | release | newDate | randomUUID | inject | getChannel
    | waitForConfirms _ | count _ => cases apart

theorem State.external_keeps {event : External} (happened : before.external event = some after) :
    KeepsMessages before after := by
  obtain ⟨⟨_,grown⟩,_⟩ := State.external_grows happened
  refine ⟨grown,?_⟩
  cases event with
  | route index =>
    simp only [external] at happened
    split at happened
    next published found =>
      split at happened
      next =>
        split at happened <;> obtain rfl := Option.some.inj happened <;>
          exact (State.settlePublish_keeps _ found).publishes
      next => cases happened
    next => cases happened
  | reject index =>
    simp only [external] at happened
    split at happened
    next published found =>
      split at happened
      next =>
        obtain rfl := Option.some.inj happened
        exact (State.settlePublish_keeps _ found).publishes
      next => cases happened
    next => cases happened
  | enqueue _ _ =>
    simp only [external,Option.map_eq_some_iff] at happened
    obtain ⟨queues,_,rfl⟩ := happened
    exact fun published member => ⟨published.fate,member⟩
  | requeue _ | expire _ | logDlq _ | abort _ =>
    obtain rfl := Option.some.inj happened
    exact fun published member => ⟨published.fate,member⟩
  | rejectUnmatched _ | handleTestRabbit _ _ =>
    simp only [external,Option.ite_none_right_eq_some,Option.some.injEq] at happened
    obtain ⟨_,rfl⟩ := happened
    exact fun published member => ⟨published.fate,member⟩

theorem RetryPublish.Of.same {published : RetryPublish} {channel : Nat} {next : View}
    (of : published.Of settings pid channel view) (same : SameDelivery view next) (fate : Fate) :
    RetryPublish.Of settings pid channel next { published with fate } := by
  obtain ⟨tag,body,event⟩ := same
  obtain ⟨publisher,there,since,retries⟩ := of
  exact ⟨publisher,there,tag ▸ since,retries.exchange,retries.routingKey,retries.body.trans body.symm,
    retries.event.trans event.symm⟩

theorem Aware.moves (aware : Aware settings pid before view) (keeps : KeepsMessages before after)
    {next : View} (informed : Informed settings pid after next) (same : SameDelivery view next)
    (written : next.written = none ∨ next.written = view.written)
    (scheduled : next.scheduled = true → view.scheduled = true) : Aware settings pid after next := by
  obtain ⟨added,grown⟩ := keeps.envelopes
  have ⟨tag,body,event⟩ := same
  refine ⟨informed,?_,?_,?_⟩
  · obtain ⟨envelope,found,content⟩ := aware.body
    refine ⟨envelope,?_,content.trans body.symm⟩
    rw [tag,grown,List.getElem?_append_left aware.informed.known]
    exact found
  · intro channel publication wrote
    rcases written with none | still
    · exact absurd (none.symm.trans wrote) (by simp)
    · obtain ⟨published,member,of⟩ := aware.written _ _ (still ▸ wrote)
      obtain ⟨fate,present⟩ := keeps.publishes published member
      exact ⟨_,present,of.same same fate⟩
  · intro done eventId carried
    obtain ⟨copied,later,carries⟩ := aware.scheduled (scheduled done) eventId (event ▸ carried)
    refine ⟨copied,tag ▸ later,?_⟩
    rw [body]
    exact carries.grows grown

theorem observe_sameDelivery (view : View) {request : Request} (outcome : Except Thrown (Reply request)) :
    SameDelivery view (view.observe request outcome) := by
  cases request <;> cases outcome <;> exact ⟨rfl,rfl,rfl⟩

def Request.schedules : Request → Bool
  | .publish _ _ | .waitForConfirms _ => true
  | .lifecycle _ | .recordAttempt _ | .clearAttempts _ | .connect | .startTransaction
  | .saveProcessedEvent _ | .saveMessage _ | .saveOutboxEvent _ | .commitTransaction
  | .rollbackTransaction | .release | .newDate | .randomUUID | .inject | .getChannel | .ack | .nack _
  | .count _ => false

theorem observe_unscheduled (view : View) {request : Request} {outcome : Except Thrown (Reply request)}
    (apart : request.schedules = false ∨ ∃ error, outcome = .error error) :
    ((view.observe request outcome).written = none ∨ (view.observe request outcome).written = view.written) ∧
      ((view.observe request outcome).scheduled = true → view.scheduled = true) := by
  cases outcome with
  | error error =>
    cases request with
    | publish _ _ => exact ⟨.inl rfl,fun scheduled => nomatch scheduled⟩
    | lifecycle _ | recordAttempt _ | clearAttempts _ | connect | startTransaction
    | saveProcessedEvent _ | saveMessage _ | saveOutboxEvent _ | commitTransaction
    | rollbackTransaction | release | newDate | randomUUID | inject | getChannel
    | waitForConfirms _ | ack | nack _ | count _ => exact ⟨.inr rfl,id⟩
  | ok value =>
    have other : request.schedules = false := apart.resolve_right (fun ⟨_,same⟩ => nomatch same)
    cases request with
    | publish _ _ | waitForConfirms _ => cases other
    | lifecycle _ | recordAttempt _ | clearAttempts _ | connect | startTransaction
    | saveProcessedEvent _ | saveMessage _ | saveOutboxEvent _ | commitTransaction
    | rollbackTransaction | release | newDate | randomUUID | inject | getChannel | ack | nack _
    | count _ => exact ⟨.inr rfl,id⟩

/-- A confirmed retry copy is a later message of the delivery's event. -/
theorem Aware.confirmed (aware : Aware settings pid state view)
    (backed : ∀ published ∈ state.publishes, published.Backed settings state) {channel : Nat}
    (confirmed : state.confirmed pid channel = true)
    (written : view.written.any (fun written => written.1 == channel) = true) {eventId : String}
    (event : view.eventId = some eventId) :
    ∃ tag, view.tag < tag ∧ state.Carries settings tag view.body eventId := by
  obtain ⟨⟨other,publication⟩,wrote,same⟩ := (Option.any_eq_true _ _).mp written
  obtain ⟨published,member,publisher,there,since,retries⟩ := aware.written other publication wrote
  have taken : published.fate = .enqueued := by
    have settled := List.all_eq_true.mp confirmed published member
    have here : published.channel = channel := there.trans (beq_iff_eq.mp same)
    simpa [publisher,here] using settled
  have carried := (backed published member).enqueued taken eventId (retries.event.trans event)
  obtain ⟨tag,later,carries⟩ := carried
  exact ⟨tag,Nat.lt_of_lt_of_le since later,retries.body ▸ carries⟩

theorem State.serve_publish {channel : Nat} {publication : Publication} {choice : Choice}
    {reply : Except Thrown Bool}
    (served : before.serve pid (.publish channel publication) choice = some (reply,after)) :
    after = { before with
      publishes := before.publishes ++ [⟨pid,channel,publication,before.envelopes.length,.inFlight⟩] } :=
  (Prod.mk.inj (Option.some.inj served)).2.symm

theorem State.serve_waitForConfirms {channel : Nat} {choice : Choice} {reply : Except Thrown Unit}
    (served : before.serve pid (.waitForConfirms channel) choice = some (reply,after)) :
    before.confirmed pid channel = true ∧ after = before := by
  simp only [serve,Option.ite_none_right_eq_some,Option.some.injEq,Prod.mk.injEq] at served
  exact ⟨served.1,served.2.2.symm⟩

theorem Aware.serve (aware : Aware settings pid before view) (conserved : Conserved settings fresh before)
    {request : Request} {choice : Choice} {reply outcome : Except Thrown (Reply request)}
    (allowed : (discipline settings).allows view request)
    (served : before.serve pid request choice = some (reply,after))
    (possible : outcome = reply ∨ ∃ error, request.fails error = true ∧ outcome = .error error) :
    Aware settings pid after (view.observe request outcome) := by
  have informed := aware.informed.serve conserved.consistent allowed served possible
  have keeps := State.serve_keeps served
  have same := observe_sameDelivery view outcome
  cases outcome with
  | error error =>
    obtain ⟨written,scheduled⟩ := observe_unscheduled view (.inr ⟨error,rfl⟩)
    exact aware.moves keeps informed same written scheduled
  | ok value =>
    cases apart : request.schedules with
    | false =>
      obtain ⟨written,scheduled⟩ := observe_unscheduled view (.inl apart)
      exact aware.moves keeps informed same written scheduled
    | true =>
      cases request with
      | publish channel publication =>
        obtain rfl := State.serve_publish served
        refine ⟨informed,aware.body,?_,fun impossible => nomatch impossible⟩
        intro other wrote written
        have of : RetryPublish.Of settings pid channel view
            ⟨pid,channel,publication,before.envelopes.length,.inFlight⟩ :=
          ⟨rfl,rfl,aware.informed.known,allowed⟩
        obtain ⟨rfl,_⟩ := Prod.mk.inj (Option.some.inj written)
        exact ⟨_,List.mem_append_right _ List.mem_cons_self,of.same same .inFlight⟩
      | waitForConfirms channel =>
        obtain ⟨confirmed,rfl⟩ := State.serve_waitForConfirms served
        refine ⟨informed,aware.body,?_,?_⟩
        · intro other publication wrote
          obtain ⟨published,member,of⟩ := aware.written other publication wrote
          exact ⟨published,member,of.same same published.fate⟩
        · intro scheduled eventId event
          exact aware.confirmed conserved.backed confirmed scheduled event
      | lifecycle _ | recordAttempt _ | clearAttempts _ | connect | startTransaction
      | saveProcessedEvent _ | saveMessage _ | saveOutboxEvent _ | commitTransaction
      | rollbackTransaction | release | newDate | randomUUID | inject | getChannel | ack | nack _
      | count _ => cases apart

theorem Aware.stays (aware : Aware settings pid before view) (keeps : KeepsMessages before after)
    (informed : Informed settings pid after view) : Aware settings pid after view :=
  aware.moves keeps informed ⟨rfl,rfl,rfl⟩ (.inr rfl) id

theorem Conserved.deliver (conserved : Conserved settings fresh before) {tag : Nat}
    {program : Program Unit} (started : before.deliver settings fresh tag = some (program,after)) :
    Conserved settings (fresh + 1) after := by
  have consistent := (conserved.consistent.deliver started).1
  obtain ⟨_,rfl⟩ := State.deliver_eq started
  have placed : ∀ copy ∈ (before.replace (State.readyIn Queues.work tag)
      (fun copy => [{ copy with unackedBy := some fresh }])).copies,
      copy.Placed (fresh + 1) (Function.update before.delivered fresh (some tag)) := by
    refine State.placed_replace ?_ ?_
    · intro copy member
      obtain ⟨queue,held⟩ := conserved.placed copy member
      refine ⟨queue,?_⟩
      intro pid holder
      obtain ⟨work,below,delivered⟩ := held pid holder
      exact ⟨work,Nat.lt_succ_of_lt below,(Function.update_of_ne below.ne _ _).trans delivered⟩
    · intro old _ ready copy target
      obtain ⟨same,work,_⟩ := State.readyIn_iff.mp ready
      rw [List.mem_singleton.mp target]
      refine ⟨by simp [commandQueues,work],?_⟩
      intro pid holder
      obtain rfl := Option.some.inj holder
      exact ⟨work,Nat.lt_succ_self _,by rw [Function.update_self,same]⟩
  have kept : Retained settings (before.replace (State.readyIn Queues.work tag)
      (fun copy => [{ copy with unackedBy := some fresh }])) :=
    conserved.kept.replace (fun _ _ _ => ⟨_,List.mem_singleton.mpr rfl,rfl⟩)
  exact ⟨consistent,placed,fun published member => (conserved.backed published member).congr rfl,kept⟩

theorem State.deliver_keeps {tag : Nat} {program : Program Unit}
    (started : before.deliver settings fresh tag = some (program,after)) : KeepsMessages before after := by
  obtain ⟨_,rfl⟩ := State.deliver_eq started
  exact .same rfl rfl

/-- No step, crash or lost answer takes the last copy of a message whose event is not processed. -/
theorem Conserved.sound (settings : Settings) : (consumerWorld settings).Sound (discipline settings)
    (fun _ _ => True) anything (Conserved settings) (Aware settings) where
  starts fresh state task program after conserved _ started := by
    obtain ⟨tag⟩ := task
    obtain ⟨_,informed,others⟩ := conserved.consistent.deliver started
    obtain ⟨⟨envelope,found,follows⟩,_⟩ := State.deliver_eq started
    have keeps := State.deliver_keeps started
    refine ⟨conserved.deliver started,⟨_,⟨informed envelope.body,?_,?_,?_⟩,follows⟩,?_⟩
    · obtain ⟨added,grown⟩ := keeps.envelopes
      refine ⟨envelope,?_,rfl⟩
      rw [grown]
      exact (List.getElem?_append_left (List.getElem?_eq_some_iff.mp found).1).trans found
    · intro channel publication wrote
      cases wrote
    · intro scheduled
      cases scheduled
    · intro pid below view aware
      exact aware.stays keeps (others pid below view aware.informed)
  serves fresh state pid view request answer choice reply after conserved below aware allowed _ _ served := by
    refine ⟨conserved.serve below aware allowed served,?_,?_⟩
    · intro outcome possible
      have honest := State.serve_honest served (possible.imp_right (fun ⟨error,_,same⟩ => ⟨error,same⟩))
      exact ⟨_,⟨rfl,honest⟩,aware.serve conserved allowed served possible⟩
    · intro other apart view aware
      exact aware.stays (State.serve_keeps served) (aware.informed.other apart (State.serve_changes served))
  refuses fresh state pid view request error conserved aware allowed fails := by
    refine ⟨_,⟨rfl,by cases request <;> trivial⟩,?_⟩
    obtain ⟨written,scheduled⟩ := observe_unscheduled view (.inr ⟨error,rfl⟩)
    exact aware.moves (.same rfl rfl) (aware.informed.refused fails) (observe_sameDelivery view _) written
      scheduled
  crashes _ _ _ conserved _ := ⟨conserved,fun _ _ _ aware => aware⟩
  externals fresh state event after conserved _ happened := by
    refine ⟨conserved.external happened,?_⟩
    intro pid view aware
    exact aware.stays (State.external_keeps happened)
      ((conserved.consistent.external happened).2 pid view aware.informed)

theorem Conserved.initial (settings : Settings) : Conserved settings 0 .initial where
  consistent := .initial settings
  placed copy member := nomatch member
  backed published member := nomatch member
  kept tag body eventId carries := by
    obtain ⟨envelope,found,_⟩ := carries
    cases found

/-- Once a valid event has been enqueued, there is at any time a message with its body in one of the
queues or in the log of the dead-letter consumer, or the event has been processed. -/
theorem events_never_lost (settings : Settings) {pool : ConsumerPool}
    (reached : (consumerWorld settings).Reach anything .initial pool) (tag : Nat) (body : Body)
    (eventId : String) (enqueued : pool.shared.Carries settings tag body eventId) :
    (∃ copy ∈ pool.shared.copies, pool.shared.Carries settings copy.tag body eventId ∧
      (copy.queue = Queues.work ∨ copy.queue = Queues.retry ∨ copy.queue = Queues.dlq)) ∨
    (∃ copy ∈ pool.shared.logged, pool.shared.Carries settings copy.tag body eventId) ∨
    pool.shared.Processed eventId := by
  have conserved := World.reach_inv (Conserved.sound settings) (Conserved.initial settings) reached
  rcases conserved.kept tag body eventId enqueued with processed | ⟨copy,queued | logged,_,carries⟩
  · exact .inr (.inr processed)
  · have queue := (conserved.placed copy queued).queue
    refine .inl ⟨copy,queued,carries,?_⟩
    simpa [commandQueues] using queue
  · exact .inr (.inl ⟨copy,logged,carries⟩)

/-- The connection to the database is lost, the retry copy is confirmed and the original acked. -/
def retriedDelivery : List ConsumerAction :=
  [.external (.enqueue sampleDelivery.content sampleDelivery.headers),.start (.deliver 0)] ++
  List.replicate 4 (.resume 0 (.served {})) ++
  [.resume 0 (.refused ⟨.error,"Error","Connection terminated",some "ECONNRESET",none⟩)] ++
  List.replicate 5 (.resume 0 (.served {})) ++ [.external (.route 0)] ++
  List.replicate 2 (.resume 0 (.served {}))

set_option maxRecDepth 4000 in
theorem retried_delivery_kept : ∃ pool eventId, sampleRun retriedDelivery = some pool ∧
    (∀ copy ∈ pool.shared.copies, copy.tag ≠ 0) ∧
    pool.shared.Carries sampleSettings 0 sampleDelivery.content eventId ∧
    ((∃ copy ∈ pool.shared.copies,
        pool.shared.Carries sampleSettings copy.tag sampleDelivery.content eventId ∧
        (copy.queue = Queues.work ∨ copy.queue = Queues.retry ∨ copy.queue = Queues.dlq)) ∨
      (∃ copy ∈ pool.shared.logged,
        pool.shared.Carries sampleSettings copy.tag sampleDelivery.content eventId) ∨
      pool.shared.Processed eventId) := by
  let pool := (sampleRun retriedDelivery).get (by decide)
  have ran : sampleRun retriedDelivery = some pool := (Option.some_get _).symm
  have reached : (consumerWorld sampleSettings).Reach anything .initial pool :=
    Machine.run_reaches ran (by decide)
  have acked : ∀ copy ∈ pool.shared.copies, copy.tag ≠ 0 := by decide
  have enqueued : pool.shared.Carries sampleSettings 0 sampleDelivery.content
      "11111111-1111-4111-8111-111111111111" := ⟨_,rfl,rfl,rfl⟩
  exact ⟨pool,_,ran,acked,enqueued,events_never_lost sampleSettings reached 0 _ _ enqueued⟩

end MessagingPlatform.Consumer
