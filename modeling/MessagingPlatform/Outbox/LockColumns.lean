import MessagingPlatform.Lib.Agreement
import MessagingPlatform.Outbox.Requests
import MessagingPlatform.Outbox.Steps

/-! The columns `locked_at` and `locked_by`. The claim's WHERE does not read them and no statement
returns them, so nothing depends on them: not which rows are claimed, not what is published, and not
whether there are reapers. -/
namespace MessagingPlatform.Outbox
open Driver

def OutboxTable.unlocked (table : OutboxTable) : OutboxTable :=
  table.apply ⟨fun _ => true,OutboxEvent.unlocked,unlocked_id⟩

def State.unlocked (state : State) : State :=
  { state with table := fun service => OutboxTable.unlocked (state.table service) }

def RelayPool.unlocked (pool : RelayPool) : RelayPool := { pool with shared := pool.shared.unlocked }

/-- Here the statement of the reapers finds no lock to release. -/
def State.serveUnreaped (state : State) (pid : Nat) : (request : Request) → Choice →
    Option (Except Thrown (Reply returningRows request) × State)
  | .query _ (.reap _), _ => some (.ok [],state)
  | request, choice => state.serve pid request choice

def unreapedWorld (settings : Settings) :
    World State Thrown Request (Reply returningRows) Choice External Task :=
  { relayWorld returningRows settings with serve := State.serveUnreaped }

section tables
variable {table other : OutboxTable} {now : Int} {scan : List Nat} {limit : Nat}

theorem unlocked_idle (row : OutboxEvent) : row.unlocked.unlocked = row.unlocked := rfl

theorem unlocked_eq_iff : OutboxTable.unlocked table = OutboxTable.unlocked other ↔
    Table.Same OutboxEvent.unlocked table other := by
  constructor
  · intro same
    exact congrArg Table.rows same
  · intro same
    have rows : (OutboxTable.unlocked table).rows = (OutboxTable.unlocked other).rows := same
    generalize OutboxTable.unlocked table = left, OutboxTable.unlocked other = right at rows ⊢
    obtain ⟨_,_⟩ := left
    obtain rfl : _ = right.rows := rows
    rfl

theorem candidates_same (same : Table.Same OutboxEvent.unlocked table other) :
    (candidates table now scan limit).map OutboxEvent.unlocked =
      (candidates other now scan limit).map OutboxEvent.unlocked := by
  have through : ∀ table : OutboxTable, (candidates table now scan limit).map OutboxEvent.unlocked =
      (((scan.dedup.filterMap (fun id => (table.find? id).map OutboxEvent.unlocked)).filter
        (OutboxEvent.due now)).insertionSort (fun left right => left.nextRetryAt ≤ right.nextRetryAt)).take limit := by
    intro table
    unfold candidates
    rw [List.map_take,← List.map_filterMap,List.filter_map]
    exact congrArg (List.take limit) (List.map_insertionSort _ _ _ _ (fun _ _ _ _ => Iff.rfl))
  rw [through,through]
  simp only [same.find? unlocked_id]

theorem update_same (same : Table.Same OutboxEvent.unlocked table other) (statement : Statement) :
    statement.update table now scan = statement.update other now scan := by
  cases statement with
  | claim lockedBy limit =>
    have ids : (candidates table now scan limit).map OutboxEvent.id =
        (candidates other now scan limit).map OutboxEvent.id := by
      have chosen := congrArg (List.map OutboxEvent.id) (@candidates_same table other now scan limit same)
      rw [List.map_map,List.map_map] at chosen
      exact chosen
    simp only [Statement.update,ids]
  | markSent _ _ | markFailed _ _ _ _ _ _ | reap _ | replayOne _ | replayFailed _ => rfl

/-- No statement but that of the reapers reads a lock, and what they write does not depend on one. -/
theorem update_blind {statement : Statement} {update : Update OutboxEvent OutboxEvent.id}
    (means : statement.update table now scan = some update) (other : ∀ ttlMs, statement ≠ .reap ttlMs) :
    update.Blind OutboxEvent.unlocked ∧ (∀ row, (update.set row.unlocked).claimed = (update.set row).claimed) := by
  cases statement with
  | reap ttlMs => exact absurd rfl (other ttlMs)
  | claim _ _ | markSent _ _ | replayOne _ | replayFailed _ =>
    obtain rfl := Option.some.inj means
    exact ⟨⟨fun _ => rfl,fun _ => rfl⟩,fun _ => rfl⟩
  | markFailed status attempts lastError nextRetryAt id lockVersion =>
    obtain ⟨instant,_,rfl⟩ := Option.map_eq_some_iff.mp means
    exact ⟨⟨fun _ => rfl,fun _ => rfl⟩,fun _ => rfl⟩

theorem reap_same {ttlMs : Int} {update : Update OutboxEvent OutboxEvent.id}
    (means : Statement.update table now scan (.reap ttlMs) = some update) :
    Table.Same OutboxEvent.unlocked (table.apply update) table := by
  obtain rfl := Option.some.inj means
  change (table.rows.map _).map OutboxEvent.unlocked = _
  rw [List.map_map]
  apply List.map_congr_left
  intro row _
  simp only [Function.comp_apply,Update.write]
  split <;> rfl

theorem returned_same {statement : Statement} {rows others : List OutboxEvent}
    (same : rows.map OutboxEvent.claimed = others.map OutboxEvent.claimed) :
    statement.returned rows = statement.returned others := by
  have ids : rows.map OutboxEvent.id = others.map OutboxEvent.id := by
    have mapped := congrArg (List.map ClaimedRow.id) same
    rw [List.map_map,List.map_map] at mapped
    exact mapped
  cases statement with
  | claim _ _ => exact same
  | markSent _ _ | markFailed _ _ _ _ _ _ | reap _ | replayOne _ | replayFailed _ => exact ids

theorem note_same {history : History} {pid : Nat} {service : Service} {statement : Statement}
    {rows others : List OutboxEvent} (same : rows.map OutboxEvent.claimed = others.map OutboxEvent.claimed) :
    history.note pid now service rows statement = history.note pid now service others statement := by
  have through : ∀ {Value : Type} (value : ClaimedRow → Value),
      rows.map (fun row => value row.claimed) = others.map (fun row => value row.claimed) := by
    intro Value value
    have mapped := congrArg (List.map value) same
    rw [List.map_map,List.map_map] at mapped
    exact mapped
  cases statement with
  | claim lockedBy limit =>
    have claims := through (fun row => (row.token service,pid))
    have held := through (fun row => (⟨row.token service,pid,now⟩ : Holding))
    exact congrArg₂ (fun claims held : List _ => { history with
      claims := history.claims ++ claims
      held := history.held ++ held }) claims held
  | markSent id version =>
    have sent := through (fun row => row.token service)
    exact congrArg (fun sent => { history with
      held := history.held.filter (fun holding => holding.token != (⟨service,id,version⟩ : Token))
      sent := history.sent ++ sent }) sent
  | markFailed _ _ _ _ _ _ | reap _ | replayOne _ | replayFailed _ => rfl

end tables

section states
variable {state other : State} {pid : Nat} {choice : Choice}

/-- States that look the same without their locks differ in them alone. -/
theorem State.unlocked_eq (same : state.unlocked = other.unlocked) :
    ∃ table, other = { state with table } ∧
      ∀ service, Table.Same OutboxEvent.unlocked (state.table service) (table service) := by
  obtain ⟨now,table,broker,publishes,fenced,history⟩ := other
  obtain ⟨rfl,tables,rfl,rfl,rfl,rfl⟩ := State.mk.inj same
  exact ⟨table,rfl,fun service => unlocked_eq_iff.mp (congrFun tables service)⟩

theorem State.unlocked_update {tables : Service → OutboxTable} {service : Service} {table later : OutboxTable}
    (same : ∀ service, Table.Same OutboxEvent.unlocked (state.table service) (tables service))
    (here : Table.Same OutboxEvent.unlocked table later) {history : History} :
    State.unlocked { state with table := Function.update state.table service table, history } =
      State.unlocked { state with table := Function.update tables service later, history } := by
  have looks : (fun other => OutboxTable.unlocked (Function.update state.table service table other)) =
      fun other => OutboxTable.unlocked (Function.update tables service later other) := by
    funext other
    by_cases itself : other = service
    · subst itself
      rw [Function.update_self,Function.update_self]
      exact unlocked_eq_iff.mpr here
    · rw [Function.update_of_ne itself,Function.update_of_ne itself]
      exact unlocked_eq_iff.mpr (same other)
  simp only [State.unlocked,looks]

/-- A request that is no query is served without a look at the tables. -/
theorem State.serve_framed {request : Request} (apart : ∀ service statement, request ≠ .query service statement)
    (tables : Service → OutboxTable) : State.serve { state with table := tables } pid request choice =
      (state.serve pid request choice).map (fun served : Except Thrown (Reply returningRows request) × State =>
        (served.1,{ served.2 with table := tables })) := by
  cases request with
  | query service statement => exact absurd rfl (apart service statement)
  | waitForConfirms channel =>
    change (if state.confirmed channel then some _ else none) =
      (if state.confirmed channel then some _ else none : Option _).map _
    by_cases confirmed : state.confirmed channel
    · rw [if_pos confirmed,if_pos confirmed]
      rfl
    · rw [if_neg confirmed,if_neg confirmed]
      rfl
  | declare declaration =>
    simp only [State.serve,Option.map_map]
    rfl
  | getChannel _ | inject _ | publish _ _ | newDate | fencedPublish _ => rfl

theorem State.serve_query_same {service : Service} {statement : Statement}
    (same : state.unlocked = other.unlocked) (heard : ∀ ttlMs, statement ≠ .reap ttlMs) :
    Option.Rel (World.Matching False State.unlocked)
      (state.serve pid (.query service statement) choice : Option (Except Thrown (Reply returningRows _) × State))
      (other.serve pid (.query service statement) choice) := by
  obtain ⟨tables,rfl,rows⟩ := State.unlocked_eq same
  simp only [State.serve,← update_same (rows service) statement]
  cases means : statement.update (state.table service) state.now choice.scan with
  | none => exact .none
  | some update =>
    obtain ⟨blind,unseen⟩ := update_blind means heard
    have returning := (rows service).returning blind unseen
    refine .some ⟨?_,fun _ => congrArg Except.ok (returned_same returning)⟩
    simp only [State.execute,note_same returning]
    exact State.unlocked_update rows ((rows service).apply blind unlocked_idle)

theorem State.serve_reap_same {service : Service} {ttlMs : Int} (same : state.unlocked = other.unlocked) :
    Option.Rel (World.Matching True State.unlocked) (state.serve pid (.query service (.reap ttlMs)) choice)
      (other.serveUnreaped pid (.query service (.reap ttlMs)) choice) := by
  obtain ⟨tables,rfl,rows⟩ := State.unlocked_eq same
  obtain ⟨update,means⟩ : ∃ update, Statement.update (state.table service) state.now choice.scan (.reap ttlMs) =
    some update := ⟨_,rfl⟩
  have looks := @State.unlocked_update state tables service _ _ rows ((reap_same means).trans (rows service))
    state.history
  rw [Function.update_eq_self] at looks
  simp only [State.serve,means]
  exact .some ⟨looks,fun loud => absurd trivial loud⟩

theorem State.serve_apart_same {request : Request} (same : state.unlocked = other.unlocked)
    (apart : ∀ service statement, request ≠ .query service statement) :
    Option.Rel (World.Matching False State.unlocked)
      (state.serve pid request choice : Option (Except Thrown (Reply returningRows request) × State))
      (other.serve pid request choice) := by
  obtain ⟨tables,rfl,rows⟩ := State.unlocked_eq same
  rw [State.serve_framed apart tables]
  cases served : state.serve pid request choice with
  | none => exact .none
  | some reply =>
    obtain ⟨_,untouched,_⟩ := State.serve_apart apart served
    refine .some ⟨?_,fun _ => rfl⟩
    have looks : (fun service => OutboxTable.unlocked (reply.2.table service)) =
        fun service => OutboxTable.unlocked (tables service) := by
      rw [untouched]
      exact funext (fun service => unlocked_eq_iff.mpr (rows service))
    simp only [State.unlocked,looks]

theorem State.serve_same_unlocked (request : Request) (same : state.unlocked = other.unlocked) :
    Option.Rel (World.Matching request.reaps State.unlocked) (state.serve pid request choice)
      (other.serveUnreaped pid request choice) := by
  cases request with
  | query service statement =>
    cases statement with
    | reap ttlMs => exact State.serve_reap_same same
    | claim _ _ | markSent _ _ | markFailed _ _ _ _ _ _ | replayOne _ | replayFailed _ =>
      exact State.serve_query_same same (fun _ => Statement.noConfusion)
  | getChannel _ | inject _ | publish _ _ | waitForConfirms _ | newDate | fencedPublish _ | declare _ =>
    exact State.serve_apart_same same (fun _ _ => Request.noConfusion)

theorem State.external_same (event : External) (same : state.unlocked = other.unlocked) :
    Option.Rel (fun after later => State.unlocked after = State.unlocked later) (state.external event)
      (other.external event) := by
  obtain ⟨tables,rfl,rows⟩ := State.unlocked_eq same
  have looks : (fun service => OutboxTable.unlocked (state.table service)) =
      fun service => OutboxTable.unlocked (tables service) :=
    funext (fun service => unlocked_eq_iff.mpr (rows service))
  have settled : ∀ index fate, Option.Rel (fun after later => State.unlocked after = State.unlocked later)
      (state.settlePublish index fate) (State.settlePublish { state with table := tables } index fate) := by
    intro index fate
    simp only [State.settlePublish]
    cases state.publishes[index]? with
    | none => exact .none
    | some published =>
      by_cases flying : published.fate = .inFlight
      · simp only [if_pos flying]
        refine .some ?_
        simp only [State.unlocked,looks]
      · simp only [if_neg flying]
        exact .none
  cases event with
  | elapse ms =>
    refine .some ?_
    simp only [State.unlocked,looks]
  | insert service recorded nextRetryAt =>
    have keys := (rows service).keys unlocked_id
    simp only [State.external]
    by_cases fresh : recorded.id ∉ (state.table service).keys
    · rw [dif_pos fresh,dif_pos (keys ▸ fresh)]
      refine .some ?_
      exact State.unlocked_update rows ((rows service).insert fresh (keys ▸ fresh))
    · rw [dif_neg fresh,dif_neg (keys ▸ fresh)]
      exact .none
  | route index => exact settled index state.routed
  | reject index => exact settled index (fun _ => .rejected)

end states

/-- Whatever the statement of a reaper is answered with, its program is over. -/
theorem heedless_reapStaleLocks (relay : RelayService) (ttlMs : Int) :
    (relay.reapStaleLocks ttlMs : Program returningRows Unit).Heedless Request.reaps := by
  refine ⟨?_,?_⟩
  · intro _ answer other
    cases answer <;> cases other <;> rfl
  · intro answer
    cases answer <;> trivial

theorem reaps_not {request : Request} (asked : (request.claims ∨ request.delivers) ∨ request.replays ∨
    request.declares) : ¬request.reaps := by
  intro reaps
  cases request with
  | query service statement =>
    cases statement with
    | reap ttlMs => rcases asked with (asked | asked) | asked | asked <;> exact asked
    | claim _ _ | markSent _ _ | markFailed _ _ _ _ _ _ | replayOne _ | replayFailed _ => exact reaps
  | getChannel _ | inject _ | publish _ _ | waitForConfirms _ | newDate | fencedPublish _ | declare _ => exact reaps

theorem Task.program_heedless (settings : Settings) (task : Task) :
    (task.program settings : Program returningRows Unit).Heedless Request.reaps := by
  cases task with
  | reapStaleLocks service => exact heedless_reapStaleLocks service.relay (settings.lockTtlMs service)
  | runRelayTick service instanceId batchSize =>
    have asks := service.relay.runRelayTick_asks settings.engine instanceId batchSize
    exact (asks.mono (fun _ asked => reaps_not (.inl asked))).heedless
  | replayById service id =>
    exact ((Task.replayById_asks settings service id).mono (fun _ asked => reaps_not (.inr (.inl asked)))).heedless
  | replayAllFailed service eventType =>
    have asks := Task.replayAllFailed_asks settings service eventType
    exact (asks.mono (fun _ asked => reaps_not (.inr (.inl asked)))).heedless
  | assertTopology =>
    exact ((Task.assertTopology_asks settings).mono (fun _ asked => reaps_not (.inr (.inr asked)))).heedless

theorem relay_alike (settings : Settings) :
    World.Alike (relayWorld returningRows settings) (unreapedWorld settings) Request.reaps State.unlocked where
  serves _ _ _ request _ same := State.serve_same_unlocked request same
  fails := rfl
  crashes _ _ _ same := same
  externals _ _ event same := State.external_same event same
  starts _ _ _ task same := .some ⟨⟨same,fun _ => rfl⟩,Task.program_heedless settings task⟩

/-- Nothing that the deployment ever does depends on a lock: from tables that differ in their locks, and
without the reapers, every run is the same up to the two columns. -/
theorem lock_columns_unobserved (settings : Settings) {state other : State} (same : state.unlocked = other.unlocked)
    (actions : List RelayAction) :
    (Machine.run (relayWorld returningRows settings).step (World.empty state) actions).map RelayPool.unlocked =
      (Machine.run (unreapedWorld settings).step (World.empty other) actions).map RelayPool.unlocked := by
  apply ((relay_alike settings).run (.empty same) actions).shown
  intro pool after agree
  unfold RelayPool.unlocked
  rw [agree.shared,agree.program,agree.fresh]

/-- A row whose relay has crashed a minute ago, and the same row without its lock. -/
def lockedState : State := { sampleState with
  now := 120000
  table := fun _ => ⟨[{ sampleCommand.row 0 with lockedAt := some 0, lockedBy := some "crashed" }],by decide⟩ }

def reapAndClaim : List RelayAction :=
  [.start (.reapStaleLocks .messaging),.resume 0 (.served {}),
    .start (.runRelayTick .messaging "relay" 25),.resume 1 (.served { scan := [1] })]

theorem lockedState_claimed_alike : ∃ pool later : RelayPool,
    Machine.run (relayWorld returningRows sampleSettings).step (World.empty lockedState) reapAndClaim = some pool ∧
    Machine.run (unreapedWorld sampleSettings).step (World.empty lockedState.unlocked) reapAndClaim = some later ∧
    pool.shared.history.claims = [(⟨.messaging,1,1⟩,1)] ∧ pool.unlocked = later.unlocked := by
  let ran := Machine.run (relayWorld returningRows sampleSettings).step (World.empty lockedState) reapAndClaim
  let unreaped := Machine.run (unreapedWorld sampleSettings).step (World.empty lockedState.unlocked) reapAndClaim
  let pool := ran.get (by decide)
  let later := unreaped.get (by decide)
  have here : ran = some pool := (Option.some_get _).symm
  have there : unreaped = some later := (Option.some_get _).symm
  have alike := @lock_columns_unobserved sampleSettings lockedState lockedState.unlocked rfl reapAndClaim
  change ran.map _ = unreaped.map _ at alike
  rw [here,there] at alike
  exact ⟨pool,later,here,there,by decide,Option.some.inj alike⟩

end MessagingPlatform.Outbox
