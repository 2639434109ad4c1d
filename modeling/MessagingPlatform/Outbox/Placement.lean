import MessagingPlatform.Outbox.Confirmed

/-! Confirmed and enqueued. The broker confirms a message that no binding takes and drops it,
so a publish that it handles between the declaration of an exchange and the binding of its
queue is lost, and its row is sent all the same. -/
namespace MessagingPlatform.Outbox
open Driver

def Publication.binding (publication : Publication) : Amqp.Binding :=
  ⟨if publication.exchange = Exchanges.main then Queues.work else Queues.eventsAudit,
    publication.exchange,publication.routingKey⟩

/-- The broker does not handle a publish between the declaration of its exchange and the binding
of its queue. -/
def routesBound (state : State) : RelayEvent → Bool
  | .external (.route index) =>
      state.publishes[index]?.all (fun published =>
        (state.broker.exchanges.lookup published.publication.exchange).isNone ||
          decide (Publication.binding published.publication ∈ state.broker.bindings))
  | _ => true

def RoutesBound (state : State) (event : RelayEvent) : Prop := routesBound state event = true

instance (state : State) (event : RelayEvent) : Decidable (RoutesBound state event) :=
  inferInstanceAs (Decidable (_ = true))

def State.HasPlaced (state : State) (eventType : String) (payload : Json) : Prop :=
  ∃ published ∈ state.publishes, Carries published.publication eventType payload ∧
    ∃ queues, published.fate = .enqueued queues ∧ (resolveOutboxRoute eventType).kind.queue ∈ queues

def Placed (state : State) : Prop :=
  ∀ published ∈ state.publishes, ∀ queues, published.fate = .enqueued queues →
    (Publication.binding published.publication).queue ∈ queues

theorem binding_queue {publication : Publication} {eventType : String} {payload : Json}
    (carries : Carries publication eventType payload) :
    (Publication.binding publication).queue = (resolveOutboxRoute eventType).kind.queue := by
  unfold Publication.binding
  rw [carries.1]
  unfold resolveOutboxRoute
  by_cases command : eventType ∈ commandEventTypes
  · simp only [command,if_true]
    rfl
  · simp only [command,if_false]
    rfl

theorem Placed.placed {state : State} (placed : Placed state) {eventType : String} {payload : Json}
    (confirmed : state.HasConfirmed eventType payload) : state.HasPlaced eventType payload := by
  obtain ⟨published,member,acked,carries⟩ := confirmed
  refine ⟨published,member,carries,?_⟩
  have enqueued := placed published member
  cases fate : published.fate with
  | enqueued queues => exact ⟨queues,rfl,binding_queue carries ▸ enqueued queues fate⟩
  | inFlight => simp [Published.acked,fate] at acked
  | rejected => simp [Published.acked,fate] at acked

theorem routed_placed {state : State} {published : Published} {queues : List String}
    (bound : state.broker.exchanges.lookup published.publication.exchange = none ∨
      Publication.binding published.publication ∈ state.broker.bindings)
    (routed : state.routed published = .enqueued queues) :
    (Publication.binding published.publication).queue ∈ queues := by
  unfold State.routed at routed
  split at routed
  next => cases routed
  next reached routes =>
    obtain rfl := Fate.enqueued.inj routed
    obtain ⟨type,existing,_⟩ := Option.map_eq_some_iff.mp routes
    rcases bound with absent | bound
    · rw [absent] at existing
      cases existing
    · refine Amqp.Topology.mem_route existing routes bound rfl ?_ rfl
      cases type with
      | direct => exact beq_self_eq_true _
      | fanout => rfl

theorem Placed.settlePublish {state after : State} {index : Nat} {fate : Published → Fate}
    (placed : Placed state) (settled : state.settlePublish index fate = some after)
    (reaches : ∀ published, state.publishes[index]? = some published → ∀ queues,
      fate published = .enqueued queues → (Publication.binding published.publication).queue ∈ queues) :
    Placed after := by
  obtain ⟨published,found,_,rfl⟩ := State.settlePublish_eq settled
  intro other member queues enqueued
  rcases List.mem_or_eq_of_mem_set member with old | rfl
  · exact placed other old queues enqueued
  · exact reaches published found queues enqueued

theorem Placed.external {state after : State} {event : External} (placed : Placed state)
    (permitted : RoutesBound state (.external event)) (happened : state.external event = some after) :
    Placed after := by
  cases event with
  | elapse ms =>
    obtain rfl := Option.some.inj happened
    exact placed
  | insert service recorded nextRetryAt =>
    obtain ⟨_,rfl⟩ := State.external_insert happened
    exact placed
  | route index =>
    refine placed.settlePublish happened ?_
    intro published found queues routed
    refine routed_placed ?_ routed
    simpa [RoutesBound,routesBound,found] using permitted
  | reject index => exact placed.settlePublish happened (fun _ _ _ impossible => by cases impossible)

theorem Placed.serve {state after : State} {pid : Nat} {request : Request} {choice : Choice}
    {reply : Except Thrown (Reply returningRows request)} (placed : Placed state)
    (served : state.serve pid request choice = some (reply,after)) : Placed after := by
  by_cases marks : request.Marks
  · cases request with
    | query service statement =>
      obtain ⟨update,_,_,rfl⟩ := State.serve_query served
      exact placed
    | publish channel publication =>
      obtain ⟨_,rfl⟩ := State.serve_publish served
      intro published member queues enqueued
      rcases List.mem_append.mp member with old | new
      · exact placed published old queues enqueued
      · rw [List.mem_singleton.mp new] at enqueued
        cases enqueued
    | getChannel _ | inject _ | waitForConfirms _ | newDate | fencedPublish _ | declare _ =>
      exact marks.elim
  · unfold Placed
    rw [(State.serve_same marks served).publishes]
    exact placed

/-- While the declared routes are bound, what the broker confirms it has put into its queue. -/
theorem Placed.sound (settings : Settings) :
    (relayWorld returningRows settings).Sound (settlement settings) settled RoutesBound (fun _ => Placed)
      (fun _ _ _ => True) :=
  relay_sound (fun _ _ _ => trivial)
    (fun _ _ _ _ _ _ _ _ placed _ _ _ _ served =>
      ⟨placed.serve served,fun _ _ => trivial,fun _ _ _ _ => trivial⟩)
    (fun _ _ _ _ _ _ => trivial)
    (fun _ _ _ placed permitted happened => ⟨placed.external permitted happened,fun _ _ _ => trivial⟩)

/-- In a run in which the broker handles no publish between the declaration of its exchange and
the binding of its queue, a row that becomes sent has been placed in its queue before. -/
theorem sent_rows_placed_when_bound (settings : Settings) (now : Int) (declared : Nat)
    {pool : RelayPool} (reached : (relayWorld returningRows settings).Reach RoutesBound
      (.initial now (fun _ => Table.empty) (declaredPrefix declared)) pool) :
    ∀ action after, (relayWorld returningRows settings).step pool action = some after →
      ∀ service, ∀ row ∈ after.shared.table service, row.status = .sent →
        pool.shared.HasPlaced row.eventType row.payload := by
  intro action after taken service row member sent
  have nothing : Placed (.initial now (fun _ => Table.empty) (declaredPrefix declared)) :=
    fun _ impossible => by cases impossible
  have placed : Placed pool.shared := World.reach_inv (Placed.sound settings) nothing reached
  have every := World.Reach.mono (fun _ _ _ => trivial) reached
  exact placed.placed (step_sent_confirmed every taken service row member sent)

set_option maxRecDepth 4000 in
theorem confirmed_command_placed : ∃ pool after, sampleRun confirmedCommand = some pool ∧
    (relayWorld returningRows sampleSettings).step pool (.resume 0 (.served {})) = some after ∧
    ∃ row ∈ after.shared.table .gateway, row.status = .sent ∧
      pool.shared.HasPlaced row.eventType row.payload := by
  let pool := (sampleRun confirmedCommand).get (by decide)
  let after := ((relayWorld returningRows sampleSettings).step pool (.resume 0 (.served {}))).get (by decide)
  have ran : sampleRun confirmedCommand = some pool := (Option.some_get _).symm
  have taken : (relayWorld returningRows sampleSettings).step pool (.resume 0 (.served {})) = some after :=
    (Option.some_get _).symm
  have reached : (relayWorld returningRows sampleSettings).Reach RoutesBound sampleState pool :=
    Machine.run_reaches ran (by decide)
  have sent : ∃ row ∈ (after.shared.table .gateway).rows, row.status = .sent := by decide
  obtain ⟨row,member,sent⟩ := sent
  have placed := sent_rows_placed_when_bound sampleSettings 0 13 reached _ after taken .gateway row
    member sent
  exact ⟨pool,after,ran,taken,row,member,sent,placed⟩

/-- The gateway publishes while the messaging service has declared the exchange and not yet
bound its queue. -/
def publishDuringDeclaration : List RelayAction := [
  .external (.insert .gateway sampleCommand 0),
  .start .assertTopology,
  .resume 0 (.served {}),
  .resume 0 (.served {}),
  .resume 0 (.served {}),
  .start (.runRelayTick .gateway "a" 25),
  .resume 1 (.served { scan := [1] }),
  .resume 1 (.served { channel := 7 }),
  .resume 1 (.served {}),
  .resume 1 (.served {}),
  .external (.route 0),
  .resume 1 (.served {})]

set_option maxRecDepth 4000 in
/-- The command is confirmed, dropped and marked sent. -/
theorem command_confirmed_and_dropped : ¬ ∀ declared pool,
    (relayWorld returningRows sampleSettings).Reach (fun _ _ => True)
      (.initial 0 (fun _ => Table.empty) (declaredPrefix declared)) pool →
    ∀ action after, (relayWorld returningRows sampleSettings).step pool action = some after →
      ∀ service, ∀ row ∈ after.shared.table service, row.status = .sent →
        pool.shared.HasPlaced row.eventType row.payload := by
  intro placed
  let first : State := .initial 0 (fun _ => Table.empty) (declaredPrefix 0)
  let run := Machine.run (relayWorld returningRows sampleSettings).step (World.empty first) publishDuringDeclaration
  let pool := run.get (by decide)
  let after := ((relayWorld returningRows sampleSettings).step pool (.resume 1 (.served {}))).get (by decide)
  have ran : run = some pool := (Option.some_get _).symm
  have taken : (relayWorld returningRows sampleSettings).step pool (.resume 1 (.served {})) = some after :=
    (Option.some_get _).symm
  have reached : (relayWorld returningRows sampleSettings).Reach (fun _ _ => True) first pool :=
    Machine.run_reaches ran (by decide)
  have sent : ∃ row ∈ (after.shared.table .gateway).rows, row.status = .sent := by decide
  have dropped : ∀ published ∈ pool.shared.publishes, published.fate = .enqueued [] := by decide
  obtain ⟨row,member,sent⟩ := sent
  obtain ⟨published,present,_,queues,fate,inside⟩ :=
    placed 0 pool reached _ after taken .gateway row member sent
  obtain rfl := Fate.enqueued.inj ((dropped published present).symm.trans fate)
  cases inside

end MessagingPlatform.Outbox
