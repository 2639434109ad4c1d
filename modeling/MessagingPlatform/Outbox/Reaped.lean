import MessagingPlatform.Outbox.Fencing

/-! Reaped locks. Reaping a lock leaves the version of its row as it was, so the token of the
reaped claim stays good until the row is claimed again. -/
namespace MessagingPlatform.Outbox
open Driver

def Reclaimed (state : State) (token : Token) : Prop :=
  ∃ claim ∈ state.history.claims, SameRow token claim.1 ∧ token.version < claim.1.version

def Standing (token : Token) (state : State) : Prop :=
  Reclaimed state token ∨
    ∃ row ∈ state.table token.service, row.id = token.id ∧ row.lockVersion = token.version

theorem Standing.congr {token : Token} {state after : State} (standing : Standing token state)
    (table : after.table = state.table) (claims : after.history.claims = state.history.claims) :
    Standing token after := by
  unfold Standing Reclaimed at standing ⊢
  rw [table,claims]
  exact standing

theorem Reclaimed.execute {token : Token} {state : State} (reclaimed : Reclaimed state token) (pid : Nat)
    (service : Service) (statement : Statement) (update : Update OutboxEvent OutboxEvent.id) :
    Reclaimed (state.execute pid service statement update) token := by
  obtain ⟨claim,member,newer⟩ := reclaimed
  refine ⟨claim,?_,newer⟩
  rw [execute_claims]
  exact List.mem_append_left _ member

theorem Statement.Writes.version {now : Int} {statement : Statement} {row after : OutboxEvent}
    (writes : statement.Writes now row after) : after.id = row.id ∧
      ((∃ lockedBy limit, statement = .claim lockedBy limit ∧ after.lockVersion = row.lockVersion + 1) ∨
        after.lockVersion = row.lockVersion) := by
  cases writes with
  | claim due => exact ⟨rfl,.inl ⟨_,_,rfl,rfl⟩⟩
  | markSent => exact ⟨rfl,.inr rfl⟩
  | markFailed => exact ⟨rfl,.inr rfl⟩
  | reap pending locked stale => exact ⟨rfl,.inr rfl⟩
  | replayOne failed => exact ⟨rfl,.inr rfl⟩
  | replayFailed failed selected => exact ⟨rfl,.inr rfl⟩

theorem Standing.execute {token : Token} {state : State} (standing : Standing token state) {pid : Nat}
    {service : Service} {statement : Statement} {update : Update OutboxEvent OutboxEvent.id} {scan : List Nat}
    (means : statement.update (state.table service) state.now scan = some update) :
    Standing token (state.execute pid service statement update) := by
  rcases standing with reclaimed | ⟨row,member,same_id,same_version⟩
  · exact .inl (reclaimed.execute pid service statement update)
  · by_cases here : token.service = service
    · subst here
      have kept : update.write row ∈ (state.execute pid token.service statement update).table token.service := by
        rw [State.mem_execute,if_pos rfl]
        exact ⟨row,member,rfl⟩
      by_cases matched : update.cond row
      · rw [Update.write_of matched] at kept
        obtain ⟨written_id,version⟩ := (Statement.write_cases means member matched).version
        rcases version with ⟨lockedBy,limit,rfl,next⟩ | unchanged
        · refine .inl ⟨((update.set row).token token.service,pid),?_,⟨rfl,?_⟩,?_⟩
          · rw [execute_claims]
            have returned : update.set row ∈ (state.table token.service).returning update :=
              Table.mem_returning.mpr ⟨row,member,matched,rfl⟩
            exact List.mem_append_right _ (List.mem_map_of_mem returned)
          · exact (written_id.trans same_id).symm
          · change token.version < (update.set row).lockVersion
            omega
        · exact .inr ⟨update.set row,kept,written_id.trans same_id,unchanged.trans same_version⟩
      · rw [Update.write_of_not matched] at kept
        exact .inr ⟨row,kept,same_id,same_version⟩
    · refine .inr ⟨row,?_,same_id,same_version⟩
      rw [State.mem_execute,if_neg here]
      exact member

theorem Standing.serve {token : Token} {state after : State} {pid : Nat} {request : Request}
    {choice : Choice} {reply : Except Thrown (Reply returningRows request)} (standing : Standing token state)
    (served : state.serve pid request choice = some (reply,after)) : Standing token after := by
  rcases State.serve_cases served with ⟨service,statement,update,rfl,means,rfl⟩ | ⟨_,table,history⟩
  · exact standing.execute means
  · exact standing.congr table (congrArg History.claims history)

theorem Standing.external {token : Token} {state after : State} {event : External}
    (standing : Standing token state) (happened : state.external event = some after) :
    Standing token after := by
  cases event with
  | elapse ms =>
    obtain rfl := Option.some.inj happened
    exact standing.congr rfl rfl
  | insert service recorded nextRetryAt =>
    obtain ⟨fresh,rfl⟩ := State.external_insert happened
    rcases standing with reclaimed | ⟨row,member,same⟩
    · exact .inl reclaimed
    · exact .inr ⟨row,(State.mem_insert fresh).mpr (.inl member),same⟩
  | route index =>
    obtain ⟨_,_,_,rfl⟩ := State.settlePublish_eq happened
    exact standing.congr rfl rfl
  | reject index =>
    obtain ⟨_,_,_,rfl⟩ := State.settlePublish_eq happened
    exact standing.congr rfl rfl

theorem Standing.run {settings : Settings} {guard : RelayPool → RelayAction → Prop} {token : Token}
    {before pool : RelayPool} (standing : Standing token before.shared)
    (later : Machine.Reaches (relayWorld returningRows settings).step guard before pool) : Standing token pool.shared := by
  refine @Machine.Reaches.invariant _ _ _ _ (fun pool => Standing token pool.shared) _ _ later standing ?_
  intro state action after standing _ taken
  refine World.step_keeps ?_ (fun _ _ standing => standing) ?_ ?_ standing taken
  · intro state pid request choice reply after standing served
    exact standing.serve served
  · intro state event after standing happened
    exact standing.external happened
  · intro state fresh task program after standing started
    obtain ⟨_,rfl⟩ := Prod.mk.inj (Option.some.inj started)
    exact standing

theorem Reclaimed.unmatched {state : State} (fenced : Fenced state) {service : Service} {id : Nat}
    {version : Int} (reclaimed : Reclaimed state ⟨service,id,version⟩) {statement : Statement}
    {scan : List Nat} {update : Update OutboxEvent OutboxEvent.id}
    (means : statement.update (state.table service) state.now scan = some update)
    (settles : statement.settles = some (id,version)) : ∀ row ∈ state.table service, ¬ update.cond row := by
  intro row member matched
  obtain ⟨same_id,same_version⟩ := settles_cond means settles member matched
  obtain ⟨claim,claimed,⟨there,same⟩,newer⟩ := reclaimed
  have bound := fenced.current service row member claim claimed there.symm (same.symm.trans same_id.symm)
  have above : version < claim.1.version := newer
  omega

theorem settles_matches {statement : Statement} {table : OutboxTable} {now : Int} {scan : List Nat}
    {update : Update OutboxEvent OutboxEvent.id} {row : OutboxEvent}
    (means : statement.update table now scan = some update)
    (settles : statement.settles = some (row.id,row.lockVersion)) : update.cond row = true := by
  cases statement with
  | markSent id version =>
    obtain rfl := Option.some.inj means
    obtain ⟨rfl,rfl⟩ := Prod.mk.inj (Option.some.inj settles)
    simp
  | markFailed status attempts lastError nextRetryAt id version =>
    obtain ⟨instant,_,rfl⟩ := Option.map_eq_some_iff.mp means
    obtain ⟨rfl,rfl⟩ := Prod.mk.inj (Option.some.inj settles)
    simp
  | claim _ _ | reap _ | replayOne _ | replayFailed _ => cases settles

theorem settles_owes_nothing {service : Service} {statement : Statement} {id : Nat} {version : Int}
    (view : View) (settles : statement.settles = some (id,version)) {row : OutboxEvent}
    {rows : List OutboxEvent} :
    (view.observe (.query service statement) (.ok (statement.returned (row :: rows)))).owes = none := by
  cases statement with
  | markSent id version => rfl
  | markFailed status attempts lastError nextRetryAt id version => rfl
  | claim _ _ | reap _ | replayOne _ | replayFailed _ => cases settles

structure Reaps (settings : Settings) (before cleared : RelayPool) (service : Service) (row : OutboxEvent) :
    Prop where
  step : ∃ pid answer choice ttlMs lockedAt,
    (relayWorld returningRows settings).step before (.resume pid answer) = some cleared ∧
    (relayWorld returningRows settings).happening before (.resume pid answer) =
      some (.performs pid (.query service (.reap ttlMs)) answer) ∧
    answer.choice? = some choice ∧ row.lockedAt = some lockedAt ∧ lockedAt < before.shared.now - ttlMs
  member : row ∈ before.shared.table service
  pending : row.status = .pending

theorem Reaps.standing {settings : Settings} {before cleared : RelayPool} {service : Service} {row : OutboxEvent}
    (reaps : Reaps settings before cleared service row) : Standing (row.token service) cleared.shared := by
  obtain ⟨⟨pid,answer,_,_,_,taken,_⟩,member,_⟩ := reaps
  have standing : Standing (row.token service) before.shared := .inr ⟨row,member,rfl,rfl⟩
  have later : Machine.Reaches (relayWorld returningRows settings).step (fun _ _ => True) before cleared :=
    .next .start trivial taken
  exact standing.run later

/-- After a reap, a settlement with the token of the reaped claim changes nothing once the row has
been claimed again, and a settlement that resolves is without effect and reported as fenced if
and only if the row has been claimed again. -/
theorem reaped_settlement_fenced_iff (settings : Settings) (now : Int) (table : Service → OutboxTable)
    (broker : Amqp.Topology) {before cleared pool after : RelayPool} {service : Service} {row : OutboxEvent}
    {pid : Nat} {answer : Answer Choice Thrown} {statement : Statement}
    (reached : (relayWorld returningRows settings).Reach (fun _ _ => True) (.initial now table broker) before)
    (reaps : Reaps settings before cleared service row)
    (later : Machine.Reaches (relayWorld returningRows settings).step
      ((relayWorld returningRows settings).Permits (fun _ _ => True)) cleared pool)
    (taken : (relayWorld returningRows settings).step pool (.resume pid answer) = some after)
    (performs : (relayWorld returningRows settings).happening pool (.resume pid answer) =
      some (.performs pid (.query service statement) answer))
    (settles : statement.settles = some (row.id,row.lockVersion)) :
    (Reclaimed pool.shared (row.token service) → after.shared.table = pool.shared.table) ∧
    ((∃ choice, answer = .served choice) →
      ((after.shared.table = pool.shared.table ∧
        ∃ next, after.program pid = some (.await (.fencedPublish service) next)) ↔
      Reclaimed pool.shared (row.token service))) := by
  have first := Fenced.initial now table broker
  have whole : (relayWorld returningRows settings).Reach (fun _ _ => True) (.initial now table broker) pool := by
    obtain ⟨_,_,_,_,_,reaping,_⟩ := reaps.step
    exact (Machine.Reaches.next reached (fun _ _ => trivial) reaping).trans later
  have fenced := World.reach_inv (Fenced.sound settings) first whole
  have lost := fun reclaimed : Reclaimed pool.shared (row.token service) =>
    unmatched_settlement whole taken performs settles
      (fun _ _ means => reclaimed.unmatched fenced means settles)
  refine ⟨fun reclaimed => (lost reclaimed).1,fun was_served => ⟨?_,?_⟩⟩
  · intro reported
    obtain ⟨_,report,reports⟩ := reported
    obtain ⟨choice,rfl⟩ := was_served
    obtain ⟨request,reply,view,next,resumed,event,answered,_,_,⟨rfl,_⟩,runs,follows⟩ :=
      World.reach_resumes (Fenced.sound settings) first whole (fun _ _ => trivial) taken
    rw [performs] at event
    obtain ⟨_,rfl,_⟩ := Happening.performs.inj (Option.some.inj event)
    obtain ⟨update,means,replied,_⟩ := State.serve_query answered
    rcases reaps.standing.run later with reclaimed | ⟨current,member,same_id,same_version⟩
    · exact reclaimed
    · have token : statement.settles = some (current.id,current.lockVersion) := by
        rw [settles,same_id,same_version]
        rfl
      have returned : update.set current ∈ (pool.shared.table service).returning update :=
        Table.mem_returning.mpr ⟨current,member,settles_matches means token,rfl⟩
      obtain ⟨head,rest,rows⟩ := List.exists_cons_of_ne_nil (List.ne_nil_of_mem returned)
      rw [replied,rows,Option.some.inj (runs.symm.trans reports)] at follows
      have owed : (view.observe (.query service statement) (.ok (statement.returned (head :: rest)))).owes =
        some service := follows.1
      have idle : (view.observe (.query service statement) (.ok (statement.returned (head :: rest)))).owes =
        none := settles_owes_nothing view settles
      exact absurd (idle.symm.trans owed) (by simp)
  · intro reclaimed
    exact ⟨(lost reclaimed).1,(lost reclaimed).2 was_served⟩

/-- A relay is so slow that its lock is reaped before it settles. -/
def reapedRelay : List RelayAction := [
  .external (.insert .messaging sampleCommand 0),
  .start (.runRelayTick .messaging "slow" 25),
  .resume 0 (.served { scan := [1] }),
  .external (.elapse 61000),
  .start (.reapStaleLocks .messaging)]

/-- It goes on to publish the row of which it has lost the lock. -/
def publishing : List RelayAction := [
  .resume 0 (.served { channel := 7 }),
  .resume 0 (.served {}),
  .resume 0 (.served {}),
  .external (.route 0),
  .resume 0 (.served {})]

/-- Between its reap and its settlement, another instance claims the row. -/
def reclaiming : List RelayAction := [
  .start (.runRelayTick .messaging "quick" 25),
  .resume 2 (.served { scan := [1] })]

def claimedRow : OutboxEvent :=
  { sampleCommand.row 0 with lockedAt := some 0, lockedBy := some "slow", lockVersion := 1 }

set_option maxRecDepth 4000 in
theorem reclaimed_settlement_fenced : ∃ pool after : RelayPool,
    Reclaimed pool.shared ⟨.messaging,1,1⟩ ∧ after.shared.table = pool.shared.table ∧
    ∃ next, after.program 0 = some (.await (.fencedPublish .messaging) next) := by
  let before := (sampleRun reapedRelay).get (by decide)
  let cleared := ((relayWorld returningRows sampleSettings).step before (.resume 1 (.served {}))).get (by decide)
  let pool := (Machine.run (relayWorld returningRows sampleSettings).step cleared (reclaiming ++ publishing)).get (by decide)
  let after := ((relayWorld returningRows sampleSettings).step pool (.resume 0 (.served {}))).get (by decide)
  have reached : (relayWorld returningRows sampleSettings).Reach (fun _ _ => True) sampleState before :=
    Machine.run_reaches (Option.some_get _).symm (by decide)
  have later : Machine.Reaches (relayWorld returningRows sampleSettings).step
      ((relayWorld returningRows sampleSettings).Permits (fun _ _ => True)) cleared pool :=
    Machine.run_reaches (Option.some_get _).symm (by decide)
  have reaps : Reaps sampleSettings before cleared .messaging claimedRow :=
    ⟨⟨1,.served {},{},60000,0,(Option.some_get _).symm,rfl,rfl,rfl,by decide⟩,List.mem_cons_self,rfl⟩
  have taken : (relayWorld returningRows sampleSettings).step pool (.resume 0 (.served {})) = some after :=
    (Option.some_get _).symm
  have iff := (@reaped_settlement_fenced_iff sampleSettings 0 _ _ before cleared pool after .messaging claimedRow 0
    (.served {}) (.markSent 1 1) reached reaps later taken rfl rfl).2 ⟨{},rfl⟩
  have reclaimed : Reclaimed pool.shared ⟨.messaging,1,1⟩ :=
    ⟨(⟨.messaging,1,2⟩,2),.tail _ (.head _),⟨rfl,rfl⟩,by decide⟩
  exact ⟨pool,after,reclaimed,iff.mpr reclaimed⟩

set_option maxRecDepth 4000 in
/-- Before the row is claimed again, the reaped relay marks it sent unnoticed. -/
theorem reaped_settlement_unfenced : ¬ ∀ (settings : Settings) (now : Int) (table : Service → OutboxTable)
    (broker : Amqp.Topology) (before cleared pool after : RelayPool) (service : Service) (row : OutboxEvent)
    (pid : Nat) (choice : Choice) (statement : Statement),
    (relayWorld returningRows settings).Reach (fun _ _ => True) (.initial now table broker) before →
    Reaps settings before cleared service row →
    Machine.Reaches (relayWorld returningRows settings).step
      ((relayWorld returningRows settings).Permits (fun _ _ => True)) cleared pool →
    (relayWorld returningRows settings).step pool (.resume pid (.served choice)) = some after →
    (relayWorld returningRows settings).happening pool (.resume pid (.served choice)) =
      some (.performs pid (.query service statement) (.served choice)) →
    statement.settles = some (row.id,row.lockVersion) →
    after.shared.table = pool.shared.table := by
  intro unchanged
  let before := (sampleRun reapedRelay).get (by decide)
  let cleared := ((relayWorld returningRows sampleSettings).step before (.resume 1 (.served {}))).get (by decide)
  let pool := (Machine.run (relayWorld returningRows sampleSettings).step cleared publishing).get (by decide)
  let after := ((relayWorld returningRows sampleSettings).step pool (.resume 0 (.served {}))).get (by decide)
  have reached : (relayWorld returningRows sampleSettings).Reach (fun _ _ => True) sampleState before :=
    Machine.run_reaches (Option.some_get _).symm (by decide)
  have later : Machine.Reaches (relayWorld returningRows sampleSettings).step
      ((relayWorld returningRows sampleSettings).Permits (fun _ _ => True)) cleared pool :=
    Machine.run_reaches (Option.some_get _).symm (by decide)
  have reaps : Reaps sampleSettings before cleared .messaging claimedRow :=
    ⟨⟨1,.served {},{},60000,0,(Option.some_get _).symm,rfl,rfl,rfl,by decide⟩,List.mem_cons_self,rfl⟩
  have same := unchanged sampleSettings 0 _ _ before cleared pool after .messaging claimedRow 0 {}
    (.markSent 1 1) reached reaps later (Option.some_get _).symm rfl rfl
  have statuses : (after.shared.table .messaging).rows.map OutboxEvent.status =
      (pool.shared.table .messaging).rows.map OutboxEvent.status := by rw [same]
  exact absurd statuses (by decide)

end MessagingPlatform.Outbox
