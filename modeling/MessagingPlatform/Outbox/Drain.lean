import MessagingPlatform.Lib.Alone
import MessagingPlatform.Lib.Matching
import MessagingPlatform.Outbox.Orphans

/-! An outbox that is left to one relay. While nothing fails and nobody else interferes, each tick publishes a
batch of the rows that are due and marks them sent, and after as many ticks as there are batches none is due. -/
namespace MessagingPlatform.Outbox
open Driver

/-- The choices of an environment in which nothing fails. The claim visits the rows in an order of the
database's choosing, and the relay has one channel. -/
structure Attendance where
  scan : OutboxTable → List Nat
  visits : ∀ table : OutboxTable, ∀ row ∈ table, row.id ∈ scan table
  channel : Nat
  carrier : Option TraceCarrier → TraceCarrier

def State.wrote (state : State) (published : Published) : State :=
  { state with publishes := state.publishes ++ [published] }

namespace Attendance

def choice (attendance : Attendance) (state : State) : Request → Choice
  | .query service _ => { scan := attendance.scan (state.table service) }
  | .getChannel _ => { channel := attendance.channel }
  | .inject restored => { carrier := attendance.carrier restored }
  | .newDate => { instant := state.now }
  | .publish _ _ | .waitForConfirms _ | .fencedPublish _ | .declare _ => {}

/-- The broker handles a message as soon as it is written. -/
def answer (attendance : Attendance) (pid : Nat) (state : State) :
    (request : Request) → Option (Except Thrown (Reply returningRows request) × State)
  | .publish channel publication => some (.ok true,
      state.wrote ⟨channel,publication,state.routed ⟨channel,publication,.inFlight⟩⟩)
  | request => state.serve pid request (attendance.choice state request)

end Attendance

def RelayAction.attends : RelayAction → Bool
  | .resume _ (.served _) | .external (.route _) => true
  | _ => false

theorem State.route_last {state : State} {published : Published} (flying : published.fate = .inFlight) :
    (state.wrote published).external (.route state.publishes.length) =
      some (state.wrote { published with fate := state.routed published }) := by
  have found : (state.wrote published).publishes[state.publishes.length]? = some published := by
    rw [State.wrote,List.getElem?_append_right (Nat.le_refl _),Nat.sub_self]
    rfl
  simp only [State.external,State.settlePublish,found,if_pos flying]
  simp [State.wrote,State.routed]

theorem Attendance.realises (attendance : Attendance) (settings : Settings) :
    (relayWorld returningRows settings).Realises (fun action => RelayAction.attends action = true) attendance.answer := by
  intro pool pid request next reply after running answered
  have resumes : ∀ choice served between, pool.shared.serve pid request choice = some (served,between) →
      (relayWorld returningRows settings).step pool (.resume pid (.served choice)) =
        some ⟨between,Function.update pool.program pid (some (next served)),pool.fresh⟩ := by
    intro choice served between performed
    simp only [World.step,running,World.answer]
    change (pool.shared.serve pid request choice).map _ = _
    rw [performed]
    rfl
  have once : pool.shared.serve pid request (attendance.choice pool.shared request) = some (reply,after) →
      ∃ actions, (∀ action ∈ actions, RelayAction.attends action = true) ∧
        Machine.run (relayWorld returningRows settings).step pool actions =
          some ⟨after,Function.update pool.program pid (some (next reply)),pool.fresh⟩ := by
    intro performed
    refine ⟨[.resume pid (.served (attendance.choice pool.shared request))],
      fun action member => List.mem_singleton.mp member ▸ rfl,?_⟩
    simp only [Machine.run,resumes _ _ _ performed,Option.bind_some]
  cases request with
  | publish channel publication =>
    obtain ⟨rfl,rfl⟩ := Prod.mk.inj (Option.some.inj answered)
    refine ⟨[.resume pid (.served {}),.external (.route pool.shared.publishes.length)],?_,?_⟩
    · intro action member
      rcases List.mem_cons.mp member with rfl | last
      · rfl
      · exact List.mem_singleton.mp last ▸ rfl
    · have routes := @State.route_last pool.shared ⟨channel,publication,.inFlight⟩ rfl
      have written : (relayWorld returningRows settings).step pool (.resume pid (.served {})) =
          some ⟨pool.shared.wrote ⟨channel,publication,.inFlight⟩,
            Function.update pool.program pid (some (next (.ok true))),pool.fresh⟩ := resumes {} _ _ rfl
      have handled : ∀ program fresh, (relayWorld returningRows settings).step
          ⟨pool.shared.wrote ⟨channel,publication,.inFlight⟩,program,fresh⟩ (.external (.route pool.shared.publishes.length)) =
            some ⟨pool.shared.wrote ⟨channel,publication,pool.shared.routed ⟨channel,publication,.inFlight⟩⟩,program,fresh⟩ :=
        fun program fresh => congrArg (Option.map (fun after => (⟨after,program,fresh⟩ : RelayPool))) routes
      simp only [Machine.run,written,handled,Option.bind_some]
  | query _ _ | getChannel _ | inject _ | waitForConfirms _ | newDate | fencedPublish _ | declare _ =>
    exact once answered

def marking (ids : List Nat) (now : Int) : Update OutboxEvent OutboxEvent.id where
  cond row := decide (row.id ∈ ids)
  set row := { row.unlocked with status := .sent, sentAt := some now }
  keepsKey := unlocked_id

section tables
variable {table : OutboxTable} {now : Int}

theorem marking_nil (table : OutboxTable) (now : Int) : table.apply (marking [] now) = table :=
  Table.apply_eq_self (fun _ _ => by simp [marking])

theorem rows_apply_congr {update other : Update OutboxEvent OutboxEvent.id}
    (same : ∀ row ∈ table, update.write row = other.write row) : table.apply update = table.apply other := by
  unfold Table.apply
  congr 1
  exact List.map_congr_left same

theorem marking_cons (id : Nat) (ids : List Nat) :
    (table.apply (marking [id] now)).apply (marking ids now) = table.apply (marking (id :: ids) now) := by
  have twice : ∀ row, (marking ids now).write ((marking [id] now).write row) = (marking (id :: ids) now).write row := by
    intro row
    unfold Update.write marking
    by_cases first : row.id = id
    · by_cases later : id ∈ ids <;> simp [first,later,OutboxEvent.unlocked]
    · by_cases later : row.id ∈ ids <;> simp [first,later]
  unfold Table.apply
  simp only [List.map_map]
  congr 1
  exact List.map_congr_left (fun row _ => twice row)

/-- The row that carries the version is the one that `markSent` matches. -/
theorem markSent_apply {row : OutboxEvent} (member : row ∈ table) {scan : List Nat} {update : Update OutboxEvent OutboxEvent.id}
    (means : (Statement.markSent row.id row.lockVersion).update table now scan = some update) :
    table.apply update = table.apply (marking [row.id] now) ∧ table.returning update ≠ [] := by
  obtain rfl := Option.some.inj means
  constructor
  · apply rows_apply_congr
    intro other present
    unfold Update.write marking
    by_cases same : other.id = row.id
    · obtain rfl := Table.eq_of_key present member same
      simp
    · simp [same]
  · intro none
    exact Table.returning_eq_nil.mp none row member (by simp)

end tables

def State.clean (state : State) (channel : Nat) : Prop :=
  ∀ published ∈ state.publishes, published.channel = channel → published.acked

def State.Routes (state : State) (eventType : String) (queues : List String) : Prop :=
  state.broker.route (resolveOutboxRoute eventType).exchange (resolveOutboxRoute eventType).routingKey = some queues

def Attendance.Delivers (attendance : Attendance) (service : Service) (state : State) (row : ClaimedRow)
    (published : Published) : Prop :=
  ∃ queues, state.Routes row.eventType queues ∧ published = ⟨attendance.channel,
    service.relay.publication row (attendance.carrier row.traceContext),.enqueued queues⟩

structure Attendance.Delivered (attendance : Attendance) (service : Service) (rows : List ClaimedRow)
    (before after : State) : Prop where
  now : after.now = before.now
  broker : after.broker = before.broker
  table : after.table = Function.update before.table service
    ((before.table service).apply (marking (rows.map ClaimedRow.id) before.now))
  publishes : ∃ sent, after.publishes = before.publishes ++ sent ∧
    List.Forall₂ (attendance.Delivers service before) rows sent

section publishing
variable {attendance : Attendance} {service : Service} {engine : Engine} {pid : Nat} {state : State}

theorem query_alone {statement : Statement} {update : Update OutboxEvent OutboxEvent.id}
    (means : statement.update (state.table service) state.now (attendance.scan (state.table service)) = some update) :
    (query service statement : Program returningRows _).alone (attendance.answer pid) state =
      some (.ok (statement.returned ((state.table service).returning update)),
        state.execute pid service statement update) := by
  refine Async.alone_call ?_
  change Option.map _ _ = _
  rw [Attendance.choice,means]
  rfl

theorem publishOne_alone {row : ClaimedRow} {stored : OutboxEvent} {queues : List String}
    (clean : state.clean attendance.channel) (routes : state.Routes row.eventType queues)
    (member : stored ∈ state.table service) (id : stored.id = row.id) (version : stored.lockVersion = row.lockVersion) :
    ∃ after, (service.relay.publishOne engine row).alone (attendance.answer pid) state = some (.ok (),after) ∧
      attendance.Delivered service [row] state after := by
  let message : Published := ⟨attendance.channel,service.relay.publication row (attendance.carrier row.traceContext),
    .enqueued queues⟩
  have fate : state.routed { message with fate := .inFlight } = .enqueued queues := by
    have found : state.broker.route message.publication.exchange message.publication.routingKey = some queues := routes
    unfold State.routed
    dsimp only
    rw [found]
  obtain ⟨update,means⟩ : ∃ update, (Statement.markSent row.id row.lockVersion).update (state.table service) state.now
      (attendance.scan (state.table service)) = some update := ⟨_,rfl⟩
  obtain ⟨applied,matched⟩ := markSent_apply member (by rw [id,version]; exact means)
  let after := (state.wrote message).execute pid service (.markSent row.id row.lockVersion) update
  have channels : (request (.getChannel service.relay.service) : Program returningRows Nat).alone (attendance.answer pid)
      state = some (.ok attendance.channel,state) := Async.alone_call rfl
  have injects : (request (.inject row.traceContext) : Program returningRows TraceCarrier).alone (attendance.answer pid)
      state = some (.ok (attendance.carrier row.traceContext),state) := Async.alone_call rfl
  have publishes : (request (.publish attendance.channel message.publication) : Program returningRows Bool).alone
      (attendance.answer pid) state = some (.ok true,state.wrote message) := by
    refine Async.alone_call ?_
    exact congrArg (fun fate => some (Except.ok true,state.wrote ⟨attendance.channel,message.publication,fate⟩)) fate
  have confirms : (request (.waitForConfirms attendance.channel) : Program returningRows Unit).alone
      (attendance.answer pid) (state.wrote message) = some (.ok (),state.wrote message) := by
    refine Async.alone_call (if_pos ?_)
    refine List.all_eq_true.mpr ?_
    intro published among
    rcases List.mem_append.mp among with earlier | last
    · by_cases here : published.channel = attendance.channel
      · simp [clean published earlier here]
      · simp [here]
    · obtain rfl := List.mem_singleton.mp last
      simp [message,Published.acked]
  have marks : (service.relay.markSent row.id row.lockVersion : Program returningRows Bool).alone
      (attendance.answer pid) (state.wrote message) = some (.ok true,after) := by
    have queried := @query_alone attendance service pid (state.wrote message) _ _ means
    unfold RelayService.markSent
    rw [Service.relay_service]
    simp only [Async.bind_eq]
    rw [Async.alone_bind queried]
    have some : 0 < (Statement.returned ((state.table service).returning update)
        (.markSent row.id row.lockVersion)).length := by
      rw [Statement.returned,List.length_map]
      exact List.length_pos_iff.mpr matched
    exact congrArg (fun found => Option.some (Except.ok found,after)) (decide_eq_true some)
  refine ⟨after,?_,rfl,rfl,?_,[message],rfl,.cons ⟨queues,routes,rfl⟩ .nil⟩
  · unfold RelayService.publishOne
    simp only [Async.bind_eq]
    refine Async.alone_tryCatch ?_
    rw [Async.alone_bind channels,Async.alone_bind injects,Async.alone_bind publishes,if_pos rfl,
      Async.alone_bind confirms,Async.alone_bind marks]
    rfl
  · have table : after.table = Function.update state.table service ((state.table service).apply update) := rfl
    rw [table,applied,id]
    rfl

theorem Attendance.Delivers.acked {row : ClaimedRow} {published : Published}
    (delivers : attendance.Delivers service state row published) : published.acked = true := by
  obtain ⟨queues,_,rfl⟩ := delivers
  rfl

theorem Attendance.Delivered.clean {rows : List ClaimedRow} {after : State}
    (delivered : attendance.Delivered service rows state after) (clean : state.clean attendance.channel) :
    after.clean attendance.channel := by
  obtain ⟨sent,published,made⟩ := delivered.publishes
  intro message among here
  rw [published] at among
  rcases List.mem_append.mp among with earlier | new
  · exact clean message earlier here
  · obtain ⟨row,_,delivers⟩ := Matching.exists_of_mem made.flip new
    have made : attendance.Delivers service state row message := delivers
    exact made.acked

/-- Each row is published on its own, and marked before the next one. -/
theorem batch_alone {rows : List ClaimedRow} (clean : state.clean attendance.channel)
    (routes : ∀ row ∈ rows, ∃ queues, state.Routes row.eventType queues)
    (present : ∀ row ∈ rows, ∃ stored ∈ state.table service, stored.id = row.id ∧
      stored.lockVersion = row.lockVersion) :
    ∃ after, (rows.forM (service.relay.publishOne engine)).alone (attendance.answer pid) state =
        some (.ok (),after) ∧ attendance.Delivered service rows state after := by
  induction rows generalizing state with
  | nil =>
    refine ⟨state,rfl,rfl,rfl,?_,[],(List.append_nil _).symm,.nil⟩
    rw [List.map_nil,marking_nil,Function.update_eq_self]
  | cons row rest ih =>
    obtain ⟨queues,routed⟩ := routes row List.mem_cons_self
    obtain ⟨stored,member,id,version⟩ := present row List.mem_cons_self
    obtain ⟨between,first,delivered⟩ := @publishOne_alone _ _ engine pid _ _ _ _ clean routed member id version
    have here : between.table service = (state.table service).apply (marking [row.id] state.now) := by
      rw [delivered.table,Function.update_self]
      rfl
    have still : ∀ other ∈ rest, ∃ stored ∈ between.table service, stored.id = other.id ∧
        stored.lockVersion = other.lockVersion := by
      intro other among
      obtain ⟨stored,member,id,version⟩ := present other (List.mem_cons_of_mem _ among)
      refine ⟨(marking [row.id] state.now).write stored,?_,((marking _ _).key_write stored).trans id,?_⟩
      · rw [here]
        exact Table.mem_apply.mpr ⟨stored,member,rfl⟩
      · unfold Update.write
        split <;> exact version
    have routable : ∀ other ∈ rest, ∃ queues, between.Routes other.eventType queues := by
      intro other among
      unfold State.Routes
      rw [delivered.broker]
      exact routes other (List.mem_cons_of_mem _ among)
    obtain ⟨after,others,more⟩ := ih (delivered.clean clean) routable still
    refine ⟨after,?_,more.now.trans delivered.now,more.broker.trans delivered.broker,?_,?_⟩
    · rw [Async.alone_forM_cons first]
      exact others
    · rw [more.table,delivered.table,delivered.now,Function.update_idem,Function.update_self]
      exact congrArg (Function.update state.table service) (marking_cons row.id (rest.map ClaimedRow.id))
    · obtain ⟨sent,published,made⟩ := delivered.publishes
      obtain ⟨later,further,makes⟩ := more.publishes
      refine ⟨sent ++ later,?_,?_⟩
      · rw [further,published,List.append_assoc]
      · have same : ∀ other message, attendance.Delivers service between other message →
            attendance.Delivers service state other message := by
          intro other message delivers
          obtain ⟨queues,routed,made⟩ := delivers
          unfold State.Routes at routed
          rw [delivered.broker] at routed
          exact ⟨queues,routed,made⟩
        exact List.rel_append made (makes.imp same)

end publishing

section batches
variable {table : OutboxTable} {now : Int} {scan : List Nat} {limit : Nat}

theorem visited_perm (visits : ∀ row ∈ table, row.id ∈ scan) :
    ((scan.dedup.filterMap table.find?).filter (OutboxEvent.due now)).Perm (eligible table now) := by
  have rows : table.rows.Nodup := List.Nodup.of_map _ table.distinct
  refine (List.perm_ext_iff_of_nodup ?_ (rows.filter _)).mpr ?_
  · refine List.Nodup.filter _ ((List.nodup_dedup scan).filterMap ?_)
    intro left right chosen first second
    exact (Table.find?_eq_some.mp first).2.symm.trans (Table.find?_eq_some.mp second).2
  · intro row
    rw [List.mem_filter,List.mem_filterMap]
    refine Iff.trans ?_ List.mem_filter.symm
    constructor
    · rintro ⟨⟨id,_,found⟩,due⟩
      exact ⟨(Table.find?_eq_some.mp found).1,due⟩
    · rintro ⟨member,due⟩
      exact ⟨⟨row.id,List.mem_dedup.mpr (visits row member),Table.find?_eq_some.mpr ⟨member,rfl⟩⟩,due⟩

theorem candidates_nodup (table : OutboxTable) (now : Int) (scan : List Nat) (limit : Nat) :
    (candidates table now scan limit).Nodup := by
  have distinct : ((scan.dedup.filterMap table.find?).filter (OutboxEvent.due now)).Nodup := by
    refine List.Nodup.filter _ ((List.nodup_dedup scan).filterMap ?_)
    intro left right chosen first second
    exact (Table.find?_eq_some.mp first).2.symm.trans (Table.find?_eq_some.mp second).2
  exact ((List.perm_insertionSort _ _).nodup_iff.mpr distinct).sublist (List.take_sublist _ _)

theorem length_candidates (visits : ∀ row ∈ table, row.id ∈ scan) :
    (candidates table now scan limit).length = min limit (eligible table now).length := by
  unfold candidates
  rw [List.length_take,List.length_insertionSort,(visited_perm visits).length_eq]

def batch (table : OutboxTable) (now : Int) (scan : List Nat) (limit : Nat) : List OutboxEvent :=
  table.rows.filter (fun row => decide (row.id ∈ (candidates table now scan limit).map OutboxEvent.id))

theorem mem_batch {row : OutboxEvent} : row ∈ batch table now scan limit ↔
    row ∈ candidates table now scan limit := by
  unfold batch
  rw [List.mem_filter,decide_eq_true_iff]
  constructor
  · rintro ⟨member,listed⟩
    obtain ⟨chosen,among,same⟩ := List.mem_map.mp listed
    exact Table.eq_of_key (mem_candidates among).1 member same ▸ among
  · intro among
    exact ⟨(mem_candidates among).1,List.mem_map_of_mem among⟩

theorem batch_length (visits : ∀ row ∈ table, row.id ∈ scan) :
    (batch table now scan limit).length = min limit (eligible table now).length := by
  have rows : table.rows.Nodup := List.Nodup.of_map _ table.distinct
  have same : (batch table now scan limit).Perm (candidates table now scan limit) :=
    (List.perm_ext_iff_of_nodup (rows.filter _) (candidates_nodup _ _ _ _)).mpr (fun _ => mem_batch)
  rw [same.length_eq,length_candidates visits]

def OutboxEvent.delivered (now : Int) (row : OutboxEvent) : OutboxEvent :=
  { row.unlocked with status := .sent, sentAt := some now, lockVersion := row.lockVersion + 1 }

def sending (rows : List OutboxEvent) (now : Int) : Update OutboxEvent OutboxEvent.id where
  cond row := decide (row.id ∈ rows.map OutboxEvent.id)
  set row := row.delivered now
  keepsKey _ := rfl

def OutboxEvent.claimedBy (lockedBy : String) (now : Int) (row : OutboxEvent) : OutboxEvent :=
  { row with lockedAt := some now, lockedBy := some lockedBy, lockVersion := row.lockVersion + 1 }

theorem batch_listed {id : Nat} : id ∈ (batch table now scan limit).map OutboxEvent.id ↔
    id ∈ (candidates table now scan limit).map OutboxEvent.id := by
  rw [List.mem_map,List.mem_map]
  exact exists_congr (fun row => and_congr_left (fun _ => mem_batch))

theorem claim_write {lockedBy : String} {update : Update OutboxEvent OutboxEvent.id}
    (means : (Statement.claim lockedBy limit).update table now scan = some update) (row : OutboxEvent) :
    update.write row = if row.id ∈ (batch table now scan limit).map OutboxEvent.id then row.claimedBy lockedBy now
      else row := by
  obtain rfl := Option.some.inj means
  unfold Update.write
  by_cases chosen : row.id ∈ (batch table now scan limit).map OutboxEvent.id
  · rw [if_pos chosen]
    exact if_pos (decide_eq_true (batch_listed.mp chosen))
  · rw [if_neg chosen]
    exact if_neg (fun listed => chosen (batch_listed.mpr (of_decide_eq_true listed)))

/-- The claim and the marks of a batch, taken together. -/
theorem claim_then_mark {lockedBy : String} {update : Update OutboxEvent OutboxEvent.id}
    (means : (Statement.claim lockedBy limit).update table now scan = some update) :
    table.returning update = (batch table now scan limit).map (OutboxEvent.claimedBy lockedBy now) ∧
    (table.apply update).apply (marking ((batch table now scan limit).map OutboxEvent.id) now) =
      table.apply (sending (batch table now scan limit) now) := by
  constructor
  · obtain rfl := Option.some.inj means
    rfl
  · have writes : ∀ row, (marking ((batch table now scan limit).map OutboxEvent.id) now).write (update.write row) =
        (sending (batch table now scan limit) now).write row := by
      intro row
      rw [claim_write means]
      by_cases chosen : row.id ∈ (batch table now scan limit).map OutboxEvent.id
      · rw [if_pos chosen]
        exact (if_pos (decide_eq_true chosen)).trans (if_pos (decide_eq_true chosen)).symm
      · rw [if_neg chosen]
        exact (if_neg (fun listed => chosen (of_decide_eq_true listed))).trans
          (if_neg (fun listed => chosen (of_decide_eq_true listed))).symm
    unfold Table.apply
    simp only [List.map_map]
    congr 1
    exact List.map_congr_left (fun row _ => writes row)

end batches

structure Attendance.Sends (attendance : Attendance) (service : Service) (rows : List OutboxEvent)
    (before after : State) : Prop where
  now : after.now = before.now
  broker : after.broker = before.broker
  table : after.table = Function.update before.table service
    ((before.table service).apply (sending rows before.now))
  publishes : ∃ sent, after.publishes = before.publishes ++ sent ∧
    List.Forall₂ (fun row => attendance.Delivers service before row.claimed) rows sent

section ticks
variable {attendance : Attendance} {service : Service} {engine : Engine} {pid : Nat} {state : State}

theorem tick_alone (instanceId : String) (batchSize : Nat) (clean : state.clean attendance.channel)
    (routes : ∀ row ∈ eligible (state.table service) state.now, ∃ queues, state.Routes row.eventType queues) :
    ∃ after, (service.relay.runRelayTick (service.relay.publishOne engine) instanceId batchSize).alone
        (attendance.answer pid) state = some (.ok (),after) ∧
      attendance.Sends service (batch (state.table service) state.now (attendance.scan (state.table service)) batchSize)
        state after := by
  obtain ⟨update,means⟩ : ∃ update, (Statement.claim instanceId batchSize).update (state.table service) state.now
      (attendance.scan (state.table service)) = some update := ⟨_,rfl⟩
  obtain ⟨returned,marked⟩ := claim_then_mark means
  let table := state.table service
  let chosen := batch table state.now (attendance.scan table) batchSize
  let rows := (chosen.map (OutboxEvent.claimedBy instanceId state.now)).map OutboxEvent.claimed
  let claimed := state.execute pid service (.claim instanceId batchSize) update
  have claims : (service.relay.claimBatch instanceId batchSize : Program returningRows (List ClaimedRow)).alone
      (attendance.answer pid) state = some (.ok rows,claimed) := by
    have queried := @query_alone attendance service pid state _ _ means
    unfold RelayService.claimBatch
    rw [Service.relay_service,queried,returned]
    rfl
  have here : claimed.table service = table.apply update := Function.update_self _ _ _
  have locked : ∀ row ∈ rows, ∃ event ∈ chosen, row = (event.claimedBy instanceId state.now).claimed := by
    intro row member
    obtain ⟨_,among,rfl⟩ := List.mem_map.mp member
    obtain ⟨event,taken,rfl⟩ := List.mem_map.mp among
    exact ⟨event,taken,rfl⟩
  have routable : ∀ row ∈ rows, ∃ queues, claimed.Routes row.eventType queues := by
    intro row member
    obtain ⟨event,among,rfl⟩ := locked row member
    obtain ⟨present,due⟩ := mem_candidates (mem_batch.mp among)
    exact routes event (List.mem_filter.mpr ⟨present,due⟩)
  have present : ∀ row ∈ rows, ∃ stored ∈ claimed.table service, stored.id = row.id ∧
      stored.lockVersion = row.lockVersion := by
    intro row member
    obtain ⟨event,among,rfl⟩ := locked row member
    refine ⟨event.claimedBy instanceId state.now,?_,rfl,rfl⟩
    rw [here]
    refine Table.mem_apply.mpr ⟨event,(mem_candidates (mem_batch.mp among)).1,?_⟩
    rw [claim_write means,if_pos (List.mem_map_of_mem among)]
  obtain ⟨after,published,delivered⟩ := @batch_alone attendance service engine pid claimed rows clean routable present
  refine ⟨after,?_,delivered.now,delivered.broker,?_,?_⟩
  · unfold RelayService.runRelayTick relayTick
    simp only [Async.bind_eq]
    have caught : (Async.tryCatch ((service.relay.claimBatch instanceId batchSize).bind (fun rows => .resolve (some rows)))
        (fun _ => .resolve none) : Program returningRows (Option (List ClaimedRow))).alone (attendance.answer pid) state =
          some (.ok (some rows),claimed) := Async.alone_tryCatch (by rw [Async.alone_bind claims]; rfl)
    rw [Async.alone_bind caught]
    dsimp only
    split
    next none =>
      rw [List.length_eq_zero_iff.mp none] at published
      exact published
    next => exact published
  · have ids : rows.map ClaimedRow.id = chosen.map OutboxEvent.id := by
      simp only [rows,List.map_map]
      rfl
    rw [delivered.table,ids,here]
    have others : claimed.table = Function.update state.table service (table.apply update) := rfl
    rw [others,Function.update_idem]
    exact congrArg (Function.update state.table service) marked
  · obtain ⟨sent,further,made⟩ := delivered.publishes
    refine ⟨sent,further,?_⟩
    rw [List.forall₂_map_left_iff,List.forall₂_map_left_iff] at made
    exact made

end ticks

def delivering (now : Int) : Update OutboxEvent OutboxEvent.id where
  cond row := row.due now
  set row := row.delivered now
  keepsKey _ := rfl

section rounds
variable {table : OutboxTable} {now : Int} {scan : List Nat} {limit : Nat}

theorem delivered_undue (now : Int) (row : OutboxEvent) : (row.delivered now).due now = false := rfl

theorem batch_due {row : OutboxEvent} (member : row ∈ table)
    (listed : row.id ∈ (batch table now scan limit).map OutboxEvent.id) : row.due now = true := by
  obtain ⟨chosen,among,same⟩ := List.mem_map.mp listed
  obtain ⟨present,due⟩ := mem_candidates (mem_batch.mp among)
  exact Table.eq_of_key present member same ▸ due

/-- A batch that has been sent is no longer due, and the other rows are as they were. -/
theorem sending_write {row : OutboxEvent} (member : row ∈ table) :
    (delivering now).write ((sending (batch table now scan limit) now).write row) = (delivering now).write row := by
  by_cases listed : row.id ∈ (batch table now scan limit).map OutboxEvent.id
  · have sent : (sending (batch table now scan limit) now).write row = row.delivered now :=
      if_pos (decide_eq_true listed)
    have due : (delivering now).write row = row.delivered now := if_pos (batch_due member listed)
    have settled : ¬ (row.delivered now).due now = true := Bool.eq_false_iff.mp (delivered_undue now row)
    rw [sent,due]
    exact if_neg settled
  · have kept : (sending (batch table now scan limit) now).write row = row :=
      if_neg (fun sent => listed (of_decide_eq_true sent))
    rw [kept]

theorem sending_then_delivering (table : OutboxTable) (now : Int) (scan : List Nat) (limit : Nat) :
    (table.apply (sending (batch table now scan limit) now)).apply (delivering now) = table.apply (delivering now) := by
  unfold Table.apply
  simp only [List.map_map]
  congr 1
  exact List.map_congr_left (fun row member => sending_write member)

theorem eligible_sent (table : OutboxTable) (now : Int) (scan : List Nat) (limit : Nat) :
    eligible (table.apply (sending (batch table now scan limit) now)) now = (eligible table now).filter
      (fun row => !decide (row.id ∈ (batch table now scan limit).map OutboxEvent.id)) := by
  let sends := (sending (batch table now scan limit) now).write
  have kept : ∀ row, ¬ row.id ∈ (batch table now scan limit).map OutboxEvent.id → sends row = row :=
    fun row unlisted => if_neg (fun sent => unlisted (of_decide_eq_true sent))
  have still : ∀ row ∈ table.rows, (OutboxEvent.due now ∘ sends) row =
      (!decide (row.id ∈ (batch table now scan limit).map OutboxEvent.id) && row.due now) := by
    intro row _
    by_cases listed : row.id ∈ (batch table now scan limit).map OutboxEvent.id
    · have sent : sends row = row.delivered now := if_pos (decide_eq_true listed)
      rw [Function.comp_apply,sent,delivered_undue,decide_eq_true listed]
      rfl
    · rw [Function.comp_apply,kept row listed,decide_eq_false listed]
      rfl
  unfold eligible
  change (table.rows.map sends).filter (OutboxEvent.due now) = _
  rw [List.filter_filter,List.filter_map,List.filter_congr still]
  refine (List.map_congr_left ?_).trans (List.map_id _)
  intro row member
  have unlisted := (Bool.and_eq_true_iff.mp (List.mem_filter.mp member).2).1
  exact kept row (by simpa using unlisted)

theorem eligible_split (table : OutboxTable) (now : Int) (scan : List Nat) (limit : Nat) :
    (batch table now scan limit ++ eligible (table.apply (sending (batch table now scan limit) now)) now).Perm
      (eligible table now) := by
  have chosen : (eligible table now).filter
      (fun row => decide (row.id ∈ (batch table now scan limit).map OutboxEvent.id)) = batch table now scan limit := by
    unfold eligible
    rw [List.filter_filter]
    refine (List.filter_congr ?_).trans rfl
    intro row member
    by_cases listed : row.id ∈ (batch table now scan limit).map OutboxEvent.id
    · rw [decide_eq_true listed,batch_due member listed,decide_eq_true (batch_listed.mp listed)]
      rfl
    · rw [decide_eq_false listed,decide_eq_false (fun among => listed (batch_listed.mpr among))]
      rfl
  have split := List.filter_append_perm
    (fun row : OutboxEvent => decide (row.id ∈ (batch table now scan limit).map OutboxEvent.id)) (eligible table now)
  rw [chosen,← eligible_sent] at split
  exact split

end rounds

def batches (rows batchSize : Nat) : Nat := (rows + batchSize - 1) / batchSize

theorem batches_zero {batchSize : Nat} (positive : 0 < batchSize) : batches 0 batchSize = 0 := by
  unfold batches
  exact Nat.div_eq_of_lt (by omega)

theorem batches_pos {rows batchSize : Nat} (positive : 0 < batchSize) (some : 0 < rows) :
    batches rows batchSize = batches (rows - min batchSize rows) batchSize + 1 := by
  unfold batches
  rcases Nat.le_total rows batchSize with few | many
  · rw [Nat.min_eq_right few,Nat.sub_self,Nat.div_eq_of_lt (show 0 + batchSize - 1 < batchSize by omega)]
    exact Nat.div_eq_of_lt_le (by omega) (by omega)
  · rw [Nat.min_eq_left many,← Nat.add_div_right _ positive]
    congr 1
    omega

/-- What becomes of the state when every due row is claimed, published once and marked sent. -/
structure Attendance.Drains (attendance : Attendance) (service : Service) (before after : State) : Prop where
  now : after.now = before.now
  broker : after.broker = before.broker
  table : after.table = Function.update before.table service ((before.table service).apply (delivering before.now))
  publishes : ∃ rows sent, rows.Perm (eligible (before.table service) before.now) ∧
    after.publishes = before.publishes ++ sent ∧
    List.Forall₂ (fun row => attendance.Delivers service before row.claimed) rows sent

section draining
variable {attendance : Attendance} {service : Service} {before between after : State}

theorem Attendance.Drains.nothing (none : eligible (before.table service) before.now = []) :
    attendance.Drains service before before where
  now := rfl
  broker := rfl
  table := by
    have undue : ∀ row ∈ before.table service, ¬ (delivering before.now).cond row = true := by
      intro row member due
      have among : row ∈ eligible (before.table service) before.now := List.mem_filter.mpr ⟨member,due⟩
      rw [none] at among
      cases among
    rw [Table.apply_eq_self undue,Function.update_eq_self]
  publishes := ⟨[],[],none ▸ .nil,(List.append_nil _).symm,.nil⟩

/-- A tick, and then what is left. -/
theorem Attendance.Sends.drains {scan : List Nat} {limit : Nat}
    (sends : attendance.Sends service (batch (before.table service) before.now scan limit) before between)
    (rest : attendance.Drains service between after) : attendance.Drains service before after where
  now := rest.now.trans sends.now
  broker := rest.broker.trans sends.broker
  table := by
    rw [rest.table,sends.table,sends.now,Function.update_idem,Function.update_self,sending_then_delivering]
  publishes := by
    obtain ⟨sent,published,made⟩ := sends.publishes
    obtain ⟨rows,later,same,further,makes⟩ := rest.publishes
    have left : eligible (between.table service) between.now = eligible
        ((before.table service).apply (sending (batch (before.table service) before.now scan limit) before.now)) before.now := by
      rw [sends.table,sends.now,Function.update_self]
    rw [left] at same
    refine ⟨batch (before.table service) before.now scan limit ++ rows,sent ++ later,?_,?_,?_⟩
    · exact (same.append_left _).trans (eligible_split _ _ _ _)
    · rw [further,published,List.append_assoc]
    · have routed : ∀ row message, attendance.Delivers service between row message →
          attendance.Delivers service before row message := by
        intro row message delivers
        obtain ⟨queues,routes,made⟩ := delivers
        unfold State.Routes at routes
        rw [sends.broker] at routes
        exact ⟨queues,routes,made⟩
      exact List.rel_append made (makes.imp (fun _ _ delivers => routed _ _ delivers))

theorem Attendance.Sends.eligible {scan : List Nat} {limit : Nat} (visits : ∀ row ∈ before.table service, row.id ∈ scan)
    (sends : attendance.Sends service (batch (before.table service) before.now scan limit) before between) :
    (Outbox.eligible (between.table service) between.now).length =
      (Outbox.eligible (before.table service) before.now).length -
        min limit (Outbox.eligible (before.table service) before.now).length := by
  have split := (eligible_split (before.table service) before.now scan limit).length_eq
  rw [List.length_append,batch_length visits] at split
  rw [sends.table,sends.now,Function.update_self]
  omega

theorem Attendance.Sends.routes {scan : List Nat} {limit : Nat}
    (sends : attendance.Sends service (batch (before.table service) before.now scan limit) before between)
    (routes : ∀ row ∈ Outbox.eligible (before.table service) before.now, ∃ queues, before.Routes row.eventType queues) :
    ∀ row ∈ Outbox.eligible (between.table service) between.now, ∃ queues, between.Routes row.eventType queues := by
  intro row among
  rw [sends.table,sends.now,Function.update_self,eligible_sent] at among
  unfold State.Routes
  rw [sends.broker]
  exact routes row (List.mem_filter.mp among).1

theorem Attendance.Sends.clean {rows : List OutboxEvent} (sends : attendance.Sends service rows before between)
    (clean : before.clean attendance.channel) : between.clean attendance.channel := by
  obtain ⟨sent,published,made⟩ := sends.publishes
  intro message among here
  rw [published] at among
  rcases List.mem_append.mp among with earlier | new
  · exact clean message earlier here
  · obtain ⟨row,_,delivers⟩ := Matching.exists_of_mem made.flip new
    have made : attendance.Delivers service before row.claimed message := delivers
    exact made.acked

/-- However many rows are due, ticks as many as they make batches publish each of them exactly once and mark it
sent, if the broker has their exchanges and confirms, and leave every other row as it was. -/
theorem outbox_drains (settings : Settings) (attendance : Attendance) (service : Service) (instanceId : String)
    {batchSize : Nat} (positive : 0 < batchSize) {pool : RelayPool} (clean : pool.shared.clean attendance.channel)
    (routes : ∀ row ∈ Outbox.eligible (pool.shared.table service) pool.shared.now, ∃ queues,
      pool.shared.Routes row.eventType queues) :
    ∃ actions after, (∀ action ∈ actions, RelayAction.attends action = true ∨
        action = .start (.runRelayTick service instanceId batchSize)) ∧
      actions.countP (fun action => !RelayAction.attends action) =
        batches (Outbox.eligible (pool.shared.table service) pool.shared.now).length batchSize ∧
      Machine.run (relayWorld returningRows settings).step pool actions = some after ∧
      attendance.Drains service pool.shared after.shared ∧
      ∀ pid, pid < pool.fresh → after.program pid = pool.program pid := by
  generalize count : (Outbox.eligible (pool.shared.table service) pool.shared.now).length = due
  induction due using Nat.strong_induction_on generalizing pool with
  | _ due ih =>
    rcases Nat.eq_zero_or_pos due with rfl | some
    · refine ⟨[],pool,fun _ absent => (List.not_mem_nil absent).elim,(batches_zero positive).symm,rfl,?_,fun _ _ => rfl⟩
      exact .nothing (List.length_eq_zero_iff.mp count)
    · obtain ⟨between,ticked,sends⟩ := @tick_alone attendance service settings.engine pool.fresh pool.shared
        instanceId batchSize clean routes
      let program : Program returningRows Unit := (Task.runRelayTick service instanceId batchSize).program settings
      let started : RelayPool := ⟨pool.shared,Function.update pool.program pool.fresh (Option.some program),pool.fresh + 1⟩
      obtain ⟨tick,settled,allowed,ran⟩ := @World.run_alone _ _ _ _ _ _ _ _ _ _ (attendance.realises settings) started
        pool.fresh program _ _ (Function.update_self _ _ _) ticked
      let later : RelayPool := ⟨between,Function.update started.program pool.fresh (Option.some settled),pool.fresh + 1⟩
      have fewer := sends.eligible (attendance.visits (pool.shared.table service))
      rw [count] at fewer
      obtain ⟨actions,after,attended,ticks,rest,drains,programs⟩ :=
        @ih _ (by omega) later (sends.clean clean) (sends.routes routes) fewer
      refine ⟨.start (.runRelayTick service instanceId batchSize) :: (tick ++ actions),after,?_,?_,?_,sends.drains drains,?_⟩
      · intro action member
        rcases List.mem_cons.mp member with rfl | member
        · exact .inr rfl
        · rcases List.mem_append.mp member with early | late
          · exact .inl (allowed action early)
          · exact attended action late
      · have quiet : tick.countP (fun action => !RelayAction.attends action) = 0 :=
          List.countP_eq_zero.mpr (fun action member => by simp [allowed action member])
        rw [List.countP_cons_of_pos (by rfl),List.countP_append,quiet,ticks,Nat.zero_add,batches_pos positive some]
      · have starts : (relayWorld returningRows settings).step pool (.start (.runRelayTick service instanceId batchSize)) =
            Option.some started := rfl
        rw [Machine.run,starts,Option.bind_some,Machine.run_append,ran,Option.bind_some]
        exact rest
      · intro pid below
        have older : later.program pid = pool.program pid := by
          dsimp only [later,started]
          rw [Function.update_of_ne below.ne,Function.update_of_ne below.ne]
        rw [programs pid (Nat.lt_succ_of_lt below),older]

end draining

def sampleAttendance : Attendance where
  scan table := table.keys
  visits _ _ member := List.mem_map_of_mem member
  channel := 7
  carrier _ := []

def waitingCommands : List RelayAction := [
  .external (.insert .gateway sampleCommand 0),
  .external (.insert .gateway { sampleCommand with id := 2 } 0),
  .external (.insert .gateway { sampleCommand with id := 3 } 0)]

set_option maxRecDepth 4000 in
theorem waiting_commands_drained : ∃ pool actions after, sampleRun waitingCommands = some pool ∧
    Machine.run (relayWorld returningRows sampleSettings).step pool actions = some after ∧
    actions.countP (fun action => !RelayAction.attends action) = 2 ∧
    (after.shared.table .gateway).rows.map OutboxEvent.status = [.sent,.sent,.sent] ∧
    after.shared.publishes.length = 3 := by
  let pool := (sampleRun waitingCommands).get (by decide)
  have ran : sampleRun waitingCommands = some pool := (Option.some_get _).symm
  have routed : ∀ row ∈ eligible (pool.shared.table .gateway) pool.shared.now,
      (pool.shared.broker.route (resolveOutboxRoute row.eventType).exchange
        (resolveOutboxRoute row.eventType).routingKey).isSome = true := by decide
  obtain ⟨actions,after,_,ticks,drained,drains,_⟩ := @outbox_drains sampleSettings sampleAttendance .gateway "relay" 2
    (by decide) pool (by intro _ among; cases among) (fun row among => Option.isSome_iff_exists.mp (routed row among))
  refine ⟨pool,actions,after,ran,drained,ticks.trans (by decide),?_,?_⟩
  · rw [drains.table]
    decide
  · obtain ⟨rows,sent,same,published,made⟩ := drains.publishes
    rw [published,List.length_append,← made.length_eq,same.length_eq]
    decide

end MessagingPlatform.Outbox
