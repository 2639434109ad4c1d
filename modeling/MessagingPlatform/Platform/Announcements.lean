import MessagingPlatform.Consumer.Fields
import MessagingPlatform.Lib.Coupling
import MessagingPlatform.Outbox.Publications

/-! The consumers of the messaging service and the relays over one `outbox_events` table. The rows that a
delivery commits are the rows that the relays find: each processed event is announced by one row, and the
relay publishes announcements of processed events only. -/
namespace MessagingPlatform.Platform
open Consumer (ConsumerPool ConsumerAction Transaction NewOutboxEvent)
open Outbox (RelayPool RelayAction OutboxEvent Recorded Service)

abbrev Saved := Transaction × NewOutboxEvent

def saved (state : Consumer.State) : List Saved :=
  state.committed.flatMap (fun transaction => transaction.outbox.map (fun row => (transaction,row)))

def recordedAs (row : NewOutboxEvent) (id : Nat) : Recorded :=
  ⟨id,row.eventType,row.payload,row.correlationId,row.maxAttempts,some row.eventId,row.traceContext⟩

section commits
variable {settings : Consumer.Settings} {pool after : ConsumerPool} {action : ConsumerAction}

end commits

def insertedBy (service : Service) : RelayAction → List Recorded
  | .external (.insert other recorded _) => if other = service then [recorded] else []
  | _ => []

section relays
open Outbox (Statement)
variable {settings : Outbox.Settings} {state : Outbox.State} {service : Service}

def recordedIn (state : Outbox.State) (service : Service) : List Recorded :=
  (state.table service).rows.map OutboxEvent.recorded

theorem recordedIn_execute {pid : Nat} {other : Service} {statement : Statement} {scan : List Nat}
    {update : Update OutboxEvent OutboxEvent.id}
    (means : statement.update (state.table other) state.now scan = some update) :
    recordedIn (state.execute pid other statement update) service = recordedIn state service := by
  unfold recordedIn
  by_cases here : service = other
  · subst here
    have rows : ((state.execute pid service statement update).table service).rows =
        (state.table service).rows.map update.write := by
      simp [Outbox.State.execute,Table.apply]
    rw [rows,List.map_map]
    exact List.map_congr_left (fun row member => Outbox.write_recorded means member)
  · have same : (state.execute pid other statement update).table service = state.table service :=
      Function.update_of_ne here _ _
    rw [same]

/-- The rows of an outbox are those that were inserted, in their order. -/
theorem recordedIn_step {pool after : RelayPool} {action : RelayAction}
    (taken : (Outbox.relayWorld Outbox.Driver.returningRows settings).step pool action = some after) :
    recordedIn after.shared service = recordedIn pool.shared service ++ insertedBy service action := by
  cases action with
  | resume pid answer =>
    refine Eq.trans ?_ (List.append_nil _).symm
    obtain ⟨request,_,reply,_,_,answered,_⟩ := World.step_resume taken
    rcases World.answer_cases answered with ⟨choice,served,_,performed,_⟩ | ⟨same,_⟩
    · rcases Outbox.State.serve_cases performed with ⟨other,statement,update,rfl,means,same⟩ | ⟨_,table,_⟩
      · rw [same]
        exact recordedIn_execute means
      · unfold recordedIn
        rw [table]
    · rw [same]
  | crash pid =>
    obtain ⟨_,_,rfl⟩ := Option.map_eq_some_iff.mp taken
    exact (List.append_nil _).symm
  | external event =>
    obtain ⟨next,happened,rfl⟩ := Option.map_eq_some_iff.mp taken
    cases event with
    | elapse ms =>
      obtain rfl := Option.some.inj happened
      exact (List.append_nil _).symm
    | insert other recorded nextRetryAt =>
      obtain ⟨fresh,rfl⟩ := Outbox.State.external_insert happened
      unfold recordedIn insertedBy
      dsimp only
      by_cases here : other = service
      · subst here
        rw [Function.update_self,if_pos rfl]
        exact List.map_append
      · rw [Function.update_of_ne (Ne.symm here),if_neg here,List.append_nil]
    | route index | reject index =>
      obtain ⟨_,_,_,rfl⟩ := Outbox.State.settlePublish_eq happened
      exact (List.append_nil _).symm
  | start task =>
    obtain rfl := Option.some.inj taken
    exact (List.append_nil _).symm

/-- Nothing else changes what the rows record. -/
theorem recordedIn_kept {pool after : RelayPool} {action : RelayAction}
    (other : ∀ recorded nextRetryAt, action ≠ .external (.insert service recorded nextRetryAt))
    (taken : (Outbox.relayWorld Outbox.Driver.returningRows settings).step pool action = some after) :
    recordedIn after.shared service = recordedIn pool.shared service := by
  rw [recordedIn_step taken]
  cases action with
  | external event =>
    cases event with
    | insert into recorded nextRetryAt =>
      have elsewhere : into ≠ service := by
        rintro rfl
        exact other recorded nextRetryAt rfl
      unfold insertedBy
      dsimp only
      rw [if_neg elsewhere,List.append_nil]
    | elapse _ | route _ | reject _ => exact List.append_nil _
  | resume _ _ | crash _ | start _ => exact List.append_nil _

end relays

section events
variable {settings : Consumer.Settings} {pool : ConsumerPool}

end events

/-- A message on the wire is the publication of a row that is in the table. -/
theorem published_row {settings : Outbox.Settings} {now : Int} {broker : Amqp.Topology} {pool : RelayPool}
    (reached : (Outbox.relayWorld Outbox.Driver.returningRows settings).Reach (fun _ _ => True)
      (.initial now (fun _ => Table.empty) broker) pool)
    {published : Outbox.Published} (member : published ∈ pool.shared.publishes) :
    ∃ service, ∃ row ∈ pool.shared.table service, ∃ carrier,
      published.publication = service.relay.publication row.claimed carrier := by
  obtain ⟨log,accounted⟩ := Outbox.reach_accounted settings now broker reached
  have backed := World.reach_inv (Outbox.Backed.sound settings) (Outbox.Backed.initial now broker) reached
  obtain ⟨pid,⟨service,claimed⟩,⟨carrier,made⟩,_,recorded,inserted,columns⟩ := accounted.published member
  obtain ⟨row,present,rfl⟩ := backed.inserted service recorded inserted
  obtain ⟨id,eventType,payload,correlationId,eventId,_⟩ := columns
  refine ⟨service,row,present,carrier,made.trans ?_⟩
  unfold Outbox.RelayService.publication
  dsimp only at id eventType payload correlationId eventId ⊢
  rw [id,eventType,payload,correlationId,eventId]
  rfl

end MessagingPlatform.Platform
