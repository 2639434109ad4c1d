import Mathlib.Data.List.Infix
import MessagingPlatform.Gateway.Concurrent
import MessagingPlatform.Platform.Announcements

/-! The producer routes of the gateway and the relays over one `gateway_outbox_events` table. A commit makes its row
visible to the relays under the id that the sequence gave it; nothing else inserts into this table. -/
namespace MessagingPlatform.Platform
open Gateway (GatewayPool GatewayAction Post Stored)
open Outbox (RelayPool RelayAction OutboxEvent Service)
open Schema (Library)

/-- The outbox of the messaging service is filled from elsewhere. -/
def gatewayService (zod : Library) (relays : Outbox.Settings) :
    Coupling GatewayPool GatewayAction RelayPool RelayAction (Nat × Stored) Unit where
  feeder := (Gateway.gatewayWorld zod).step
  taker := (Outbox.relayWorld Outbox.Driver.returningRows relays).step
  yields before after := after.shared.store.log.drop before.shared.store.log.length
  feed entry _ := .external (.insert .gateway (recordedAs entry.2.new entry.2.id) entry.2.new.nextRetryAt)
  feeds
    | .external (.insert .gateway _ _) => true
    | _ => false

abbrev CommandAction := Coupling.Action GatewayAction RelayAction Unit

/-- The rows of the table are the committed rows, in the order of the commits. -/
theorem gatewayService_balances (zod : Library) (relays : Outbox.Settings) :
    (gatewayService zod relays).Balances (fun pool => pool.shared.store.log)
      (fun pool => recordedIn pool.shared .gateway)
      (fun entry recorded => recorded = recordedAs entry.2.new entry.2.id) where
  makes pool action after taken := by
    have moved : (Gateway.gatewayWorld zod).step pool action = some after := taken
    have grown := (Gateway.step_later moved).log
    exact .of_eq (List.prefix_append_drop grown)
  takes pool entry _ after taken := by
    have moved : (Outbox.relayWorld Outbox.Driver.returningRows relays).step pool
        (.external (.insert .gateway (recordedAs entry.2.new entry.2.id) entry.2.new.nextRetryAt)) = some after := taken
    exact ⟨recordedAs entry.2.new entry.2.id,recordedIn_step moved,rfl⟩
  keeps pool action after other taken := by
    refine recordedIn_kept ?_ taken
    rintro recorded nextRetryAt rfl
    cases other

structure Commands (zod : Library) (post : Post) (event : ContractEvent) (row : OutboxEvent) : Prop where
  validated : post.route.Validated zod post.correlationId event
  eventType : row.eventType = post.route.eventType
  payload : row.payload = event.toJson
  correlationId : row.correlationId = post.correlationId
  eventId : row.eventId = some event.eventId

theorem Commands.routed {zod : Library} {post : Post} {event : ContractEvent} {row : OutboxEvent}
    (commands : Commands zod post event row) :
    resolveOutboxRoute row.eventType = ⟨Exchanges.main,RoutingKeys.work,.command⟩ := by
  rw [commands.eventType]
  unfold Gateway.ProducerRoute.eventType
  cases post.route.version <;> rfl

def StoredAs (entry : Nat × Stored) (row : OutboxEvent) : Prop :=
  row.recorded = recordedAs entry.2.new entry.2.id

theorem StoredAs.commands {zod : Library} {entry : Nat × Stored} {row : OutboxEvent} (stored : StoredAs entry row)
    {post : Post} {event : ContractEvent} (made : Gateway.MadeFrom zod post entry.2.new event) :
    Commands zod post event row where
  validated := made.validated
  eventType := (congrArg Outbox.Recorded.eventType stored).trans made.eventType
  payload := (congrArg Outbox.Recorded.payload stored).trans made.payload
  correlationId := (congrArg Outbox.Recorded.correlationId stored).trans made.correlationId
  eventId := (congrArg Outbox.Recorded.eventId stored).trans (congrArg some made.eventId)

theorem insert_taken (zod : Library) (relays : Outbox.Settings) {pool : RelayPool} {entry : Nat × Stored}
    (fresh : entry.2.id ∉ (recordedIn pool.shared .gateway).map Outbox.Recorded.id) :
    ∃ after, (Outbox.relayWorld Outbox.Driver.returningRows relays).step pool
      ((gatewayService zod relays).feed entry ()) = some after := by
  have absent : (recordedAs entry.2.new entry.2.id).id ∉ (pool.shared.table .gateway).keys := by
    intro present
    refine fresh ?_
    unfold recordedIn
    rw [List.map_map]
    exact present
  refine Option.isSome_iff_exists.mp ?_
  change (Option.map _ (Outbox.State.external pool.shared
    (.insert .gateway (recordedAs entry.2.new entry.2.id) entry.2.new.nextRetryAt))).isSome = true
  rw [Option.isSome_map]
  simp only [Outbox.State.external,dif_pos absent,Option.isSome_some]

/-- Rows under new ids can all be inserted. -/
theorem entries_taken (zod : Library) (relays : Outbox.Settings) {entries : List (Nat × Stored)} {pool : RelayPool}
    (distinct : ((recordedIn pool.shared .gateway).map Outbox.Recorded.id ++ entries.map (fun entry => entry.2.id)).Nodup) :
    ∃ after, Machine.run (Outbox.relayWorld Outbox.Driver.returningRows relays).step pool
      (List.zipWith (gatewayService zod relays).feed entries (List.replicate entries.length ())) = some after := by
  induction entries generalizing pool with
  | nil => exact ⟨pool,rfl⟩
  | cons entry rest ih =>
    have fresh : entry.2.id ∉ (recordedIn pool.shared .gateway).map Outbox.Recorded.id :=
      fun present => List.disjoint_of_nodup_append distinct present List.mem_cons_self
    obtain ⟨next,taken⟩ := insert_taken zod relays fresh
    have grown : recordedIn next.shared .gateway =
        recordedIn pool.shared .gateway ++ [recordedAs entry.2.new entry.2.id] := recordedIn_step taken
    have still : ((recordedIn next.shared .gateway).map Outbox.Recorded.id ++ rest.map (fun entry => entry.2.id)).Nodup := by
      rw [grown,List.map_append,List.append_assoc]
      exact distinct
    obtain ⟨after,ran⟩ := ih still
    refine ⟨after,?_⟩
    change ((Outbox.relayWorld Outbox.Driver.returningRows relays).step pool _).bind _ = _
    rw [taken]
    exact ran

def CommandReach (zod : Library) (relays : Outbox.Settings) (now : Int) (broker : Amqp.Topology) :
    GatewayPool × RelayPool → Prop :=
  Machine.Reaches (gatewayService zod relays).step (fun _ _ => True)
    (World.empty .initial,World.empty (.initial now (fun _ => Table.empty) broker))

section runs
variable {zod : Library} {relays : Outbox.Settings} {now : Int} {broker : Amqp.Topology} {pair : GatewayPool × RelayPool}

theorem CommandReach.requests (reached : CommandReach zod relays now broker pair) :
    (Gateway.gatewayWorld zod).Reach Gateway.anything .initial pair.1 :=
  Coupling.reaches_feeder (fun _ _ _ _ => trivial) reached

theorem CommandReach.relayed (reached : CommandReach zod relays now broker pair) :
    (Outbox.relayWorld Outbox.Driver.returningRows relays).Reach (fun _ _ => True)
      (.initial now (fun _ => Table.empty) broker) pair.2 :=
  Coupling.reaches_taker (fun _ _ _ _ => trivial) reached

/-- Row by row the table holds what the requests have committed. -/
theorem CommandReach.stored (reached : CommandReach zod relays now broker pair) :
    ∃ entries, entries.Perm pair.1.shared.store.log ∧ List.Forall₂ StoredAs entries (pair.2.shared.table .gateway).rows := by
  obtain ⟨entries,same,matched⟩ := (gatewayService_balances zod relays).matched rfl rfl reached
  have rows := List.forall₂_map_right_iff.mp matched
  exact ⟨entries,same,rows⟩

/-- The table never keeps a request from its step: each run of the requests alone is one of the pair. -/
theorem CommandReach.unblocked (reached : CommandReach zod relays now broker pair) {action : GatewayAction}
    {after : GatewayPool} (taken : (Gateway.gatewayWorld zod).step pair.1 action = some after) :
    ∃ choices table, (gatewayService zod relays).step pair (.feeder action choices) = some (after,table) := by
  obtain ⟨entries,same,stored⟩ := reached.stored
  have grown := List.prefix_append_drop (Gateway.step_later taken).log
  have ids : (after.shared.store.log.map (fun entry => entry.2.id)).Nodup :=
    (Gateway.reach_kept (reached.requests.next (fun _ _ => trivial) taken)).ids.nodup (fun _ => rfl)
  have keys : List.Forall₂ Eq (entries.map (fun entry => entry.2.id))
      ((recordedIn pair.2.shared .gateway).map Outbox.Recorded.id) := by
    unfold recordedIn
    rw [List.map_map,List.forall₂_map_left_iff,List.forall₂_map_right_iff]
    exact stored.imp (fun _ _ as => (congrArg Outbox.Recorded.id as).symm)
  rw [List.forall₂_eq_eq_eq] at keys
  rw [grown,List.map_append] at ids
  have distinct := (((same.map (fun entry => entry.2.id)).append_right _).nodup_iff.mpr ids)
  rw [keys] at distinct
  obtain ⟨table,ran⟩ := entries_taken zod relays distinct
  exact ⟨_,table,Coupling.step_of_run taken List.length_replicate.symm ran⟩

end runs

/-- From the client to the wire. Every client that is told 202 finds the row that it is told of in the table of the
relays, with the event of its own request; the rows have events of their own, and what a relay publishes of them is the
command of a request, under the exchange and the key of the work queue. The relays hold no request up. -/
theorem accepted_commands_relayed (zod : Library) (relays : Outbox.Settings) (now : Int) (broker : Amqp.Topology)
    {pair : GatewayPool × RelayPool} (reached : CommandReach zod relays now broker pair) :
    (∀ pid response, (pid,.ok response) ∈ pair.1.shared.responses → ∃ row ∈ pair.2.shared.table .gateway,
      row.id = response.outboxId ∧ row.eventId = some response.eventId ∧
      ∃ post event, pair.1.shared.posts pid = some post ∧ Commands zod post event row) ∧
    ((pair.2.shared.table .gateway).rows.map OutboxEvent.eventId).Nodup ∧
    (∀ published ∈ pair.2.shared.publishes, ∃ service, ∃ row ∈ pair.2.shared.table service, ∃ carrier,
      published.publication = service.relay.publication row.claimed carrier ∧
      (service = .gateway → published.publication.exchange = Exchanges.main ∧
        published.publication.routingKey = RoutingKeys.work ∧
        ∃ pid post event, pair.1.shared.posts pid = some post ∧ Commands zod post event row)) ∧
    ∀ action after, (Gateway.gatewayWorld zod).step pair.1 action = some after → ∃ choices table,
      (gatewayService zod relays).step pair (.feeder action choices) = some (after,table) := by
  have kept := Gateway.reach_kept reached.requests
  obtain ⟨entries,same,stored⟩ := reached.stored
  refine ⟨?_,?_,?_,fun _ _ taken => reached.unblocked taken⟩
  · intro pid response answered
    obtain ⟨found,committed,id,eventId⟩ := kept.accepted pid response answered
    obtain ⟨row,present,as⟩ := Matching.exists_of_mem stored (same.symm.subset committed)
    obtain ⟨_,post,event,known,made⟩ := kept.rows.committed _ committed
    have commands := StoredAs.commands as made
    refine ⟨row,Table.mem_rows.mp present,?_,?_,post,event,known,commands⟩
    · exact (congrArg Outbox.Recorded.id as).trans id.symm
    · exact (congrArg Outbox.Recorded.eventId as).trans (congrArg some eventId.symm)
  · have ids : List.Forall₂ Eq (entries.map (fun entry => some entry.2.new.eventId))
        ((pair.2.shared.table .gateway).rows.map OutboxEvent.eventId) := by
      rw [List.forall₂_map_left_iff,List.forall₂_map_right_iff]
      exact stored.imp (fun _ _ as => (congrArg Outbox.Recorded.eventId as).symm)
    rw [List.forall₂_eq_eq_eq] at ids
    rw [← ids]
    have events := kept.events.nodup (fun _ => rfl)
    have distinct := ((same.map (fun entry => entry.2.new.eventId)).nodup_iff.mpr events).map (Option.some_injective _)
    rwa [List.map_map] at distinct
  · intro published member
    obtain ⟨service,row,present,carrier,wire⟩ := published_row reached.relayed member
    refine ⟨service,row,present,carrier,wire,?_⟩
    rintro rfl
    obtain ⟨entry,among,as⟩ := Matching.exists_of_mem stored.flip (Table.mem_rows.mpr present)
    obtain ⟨_,post,event,known,made⟩ := kept.rows.committed entry (same.subset among)
    have commands := StoredAs.commands as made
    have route := commands.routed
    rw [wire]
    exact ⟨congrArg OutboxRoute.exchange route,congrArg OutboxRoute.routingKey route,entry.1,post,event,known,commands⟩

def relayedCommand : List CommandAction :=
  let turn := World.Action.resume 0 (.served { randomUUID := "11111111-1111-4111-8111-111111111111" })
  [.feeder (.start ⟨Gateway.AppController.testMessage,some "22222222-2222-4222-8222-222222222222"⟩) []] ++
  List.replicate 7 (.feeder turn []) ++ [.feeder turn [()]] ++ List.replicate 4 (.feeder turn []) ++
  [.taker (.start (.runRelayTick .gateway "relay" 25)),.taker (.resume 0 (.served { scan := [1] }))] ++
  List.replicate 3 (.taker (.resume 0 (.served {}))) ++
  [.taker (.external (.route 0)),.taker (.resume 0 (.served {})),.taker (.resume 0 (.served { scan := [1] }))]

set_option maxRecDepth 4000 in
theorem command_relayed_once : ∃ pair : GatewayPool × RelayPool,
    Machine.run (gatewayService sampleLibrary Outbox.sampleSettings).step
      (World.empty .initial,World.empty Outbox.sampleState) relayedCommand = some pair ∧
    pair.2.shared.publishes.length = 1 ∧
    (∃ row ∈ pair.2.shared.table .gateway, row.id = 1 ∧ row.status = .sent) ∧
    ∃ pid post event, ∃ row ∈ pair.2.shared.table .gateway,
      pair.1.shared.posts pid = some post ∧ Commands sampleLibrary post event row := by
  let ended := Machine.run (gatewayService sampleLibrary Outbox.sampleSettings).step
    (World.empty .initial,World.empty Outbox.sampleState) relayedCommand
  let pair := ended.get (by decide)
  have ran : ended = some pair := (Option.some_get _).symm
  have reached : CommandReach sampleLibrary Outbox.sampleSettings 0 (declaredPrefix 13) pair :=
    Machine.run_reaches ran (Machine.permitted_every (fun _ _ => trivial) _ _)
  obtain ⟨accepted,_⟩ := accepted_commands_relayed sampleLibrary Outbox.sampleSettings 0 _ reached
  obtain ⟨row,present,_,_,post,event,known,commands⟩ := accepted 0 _ (.head _)
  exact ⟨pair,ran,by decide,by decide,0,post,event,row,present,known,commands⟩

end MessagingPlatform.Platform
