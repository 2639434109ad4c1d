import MessagingPlatform.Outbox.Steps

/-! Fencing tokens. A claim gives its row a version above all earlier claims of that row, so a
settlement that carries the version of a superseded claim matches no row. -/
namespace MessagingPlatform.Outbox
open Driver

def SameRow (left right : Token) : Prop := left.service = right.service ∧ left.id = right.id

structure Fenced (state : State) : Prop where
  ordered : state.history.claims.Pairwise
    (fun earlier later => SameRow earlier.1 later.1 → earlier.1.version < later.1.version)
  current : ∀ service, ∀ row ∈ state.table service, ∀ claim ∈ state.history.claims,
    claim.1.service = service → claim.1.id = row.id → claim.1.version ≤ row.lockVersion
  present : ∀ claim ∈ state.history.claims, claim.1.id ∈ (state.table claim.1.service).keys

def Statement.settles : Statement → Option (Nat × Int)
  | .markSent id version => some (id,version)
  | .markFailed _ _ _ _ id version => some (id,version)
  | _ => none

section statements
variable {statement : Statement} {table : OutboxTable} {now : Int} {scan : List Nat}
  {update : Update OutboxEvent OutboxEvent.id} {row : OutboxEvent}

theorem write_lockVersion_le (means : statement.update table now scan = some update)
    (member : row ∈ table) : row.lockVersion ≤ (update.write row).lockVersion := by
  by_cases matched : update.cond row
  · rw [Update.write_of matched]
    have writes := Statement.write_cases means member matched
    generalize update.set row = after at writes
    cases writes with
    | claim due => exact Int.le_add_one (le_refl _)
    | markSent => exact le_refl _
    | markFailed => exact le_refl _
    | reap pending locked stale => exact le_refl _
    | replayOne failed => exact le_refl _
    | replayFailed failed selected => exact le_refl _
  · rw [Update.write_of_not matched]

theorem settles_cond {id : Nat} {version : Int}
    (means : statement.update table now scan = some update)
    (settles : statement.settles = some (id,version)) (member : row ∈ table)
    (matched : update.cond row) : row.id = id ∧ row.lockVersion = version := by
  have writes := Statement.write_cases means member matched
  generalize update.set row = after at writes
  cases writes with
  | markSent => simpa [Statement.settles] using settles
  | markFailed => simpa [Statement.settles] using settles
  | claim due => cases settles
  | reap pending locked stale => cases settles
  | replayOne failed => cases settles
  | replayFailed failed selected => cases settles

end statements

theorem Fenced.initial (now : Int) (table : Service → OutboxTable) (broker : Amqp.Topology) :
    Fenced (.initial now table broker) where
  ordered := .nil
  current _ _ _ _ claimed := by cases claimed
  present _ claimed := by cases claimed

theorem Fenced.congr {state after : State} (fenced : Fenced state)
    (table : after.table = state.table) (claims : after.history.claims = state.history.claims) :
    Fenced after where
  ordered := by rw [claims]; exact fenced.ordered
  current := by rw [claims,table]; exact fenced.current
  present := by rw [claims,table]; exact fenced.present

theorem returned_mem {state : State} {pid : Nat} {service : Service} {statement : Statement}
    {update : Update OutboxEvent OutboxEvent.id} {row : OutboxEvent}
    (returned : row ∈ (state.table service).returning update) :
    row ∈ (state.execute pid service statement update).table service := by
  obtain ⟨before,member,matched,same⟩ := Table.mem_returning.mp returned
  rw [State.mem_execute,if_pos rfl]
  exact ⟨before,member,same.trans (Update.write_of matched).symm⟩

section execution
variable {state : State} {pid : Nat} {service : Service} {statement : Statement}
  {update : Update OutboxEvent OutboxEvent.id} {scan : List Nat}

theorem execute_claims (state : State) (pid : Nat) (service : Service) (statement : Statement)
    (update : Update OutboxEvent OutboxEvent.id) :
    (state.execute pid service statement update).history.claims = state.history.claims ++
      (match statement with
        | .claim _ _ => ((state.table service).returning update).map (fun row => (row.token service,pid))
        | _ => []) := by
  cases statement <;> simp [State.execute,History.note]

theorem mem_execute_claims {claim : Token × Nat}
    (claimed : claim ∈ (state.execute pid service statement update).history.claims) :
    claim ∈ state.history.claims ∨ ∃ lockedBy limit, statement = .claim lockedBy limit ∧
      ∃ row ∈ (state.table service).returning update, claim = (row.token service,pid) := by
  rw [execute_claims,List.mem_append] at claimed
  rcases claimed with old | new
  · exact .inl old
  · cases statement with
    | claim lockedBy limit =>
      obtain ⟨row,returned,same⟩ := List.mem_map.mp new
      exact .inr ⟨lockedBy,limit,rfl,row,returned,same.symm⟩
    | markSent id version => cases new
    | markFailed status attempts lastError nextRetryAt id version => cases new
    | reap ttlMs => cases new
    | replayOne id => cases new
    | replayFailed eventType => cases new

theorem claim_version {lockedBy : String} {limit : Nat} {row : OutboxEvent}
    (means : (Statement.claim lockedBy limit).update (state.table service) state.now scan = some update)
    (returned : row ∈ (state.table service).returning update) :
    ∃ before ∈ state.table service, before.id = row.id ∧ row.lockVersion = before.lockVersion + 1 := by
  obtain ⟨before,member,matched,same⟩ := Table.mem_returning.mp returned
  have writes := Statement.write_cases means member matched
  rw [← same] at writes
  cases writes with
  | claim due => exact ⟨before,member,rfl,rfl⟩

theorem Fenced.execute (fenced : Fenced state)
    (means : statement.update (state.table service) state.now scan = some update) :
    Fenced (state.execute pid service statement update) where
  ordered := by
    rw [execute_claims]
    refine List.pairwise_append.mpr ⟨fenced.ordered,?_,?_⟩
    · cases statement with
      | claim lockedBy limit =>
        have distinct := List.pairwise_map.mp ((state.table service).returning_keys_nodup update)
        refine List.pairwise_map.mpr (distinct.imp ?_)
        intro left right other same
        exact absurd same.2 other
      | markSent id version => exact .nil
      | markFailed status attempts lastError nextRetryAt id version => exact .nil
      | reap ttlMs => exact .nil
      | replayOne id => exact .nil
      | replayFailed eventType => exact .nil
    · intro earlier old later new same
      cases statement with
      | claim lockedBy limit =>
        obtain ⟨row,returned,rfl⟩ := List.mem_map.mp new
        obtain ⟨before,member,same_id,next⟩ := claim_version means returned
        have bound := fenced.current service before member earlier old same.1 (same.2.trans same_id.symm)
        have above : earlier.1.version < row.lockVersion := by omega
        exact above
      | markSent id version => cases new
      | markFailed status attempts lastError nextRetryAt id version => cases new
      | reap ttlMs => cases new
      | replayOne id => cases new
      | replayFailed eventType => cases new
  current := by
    intro other row member claim claimed there same
    have old : claim ∈ state.history.claims → claim.1.version ≤ row.lockVersion := by
      intro old
      rw [State.mem_execute] at member
      by_cases here : other = service
      · rw [if_pos here] at member
        obtain ⟨before,member,rfl⟩ := member
        have grows := write_lockVersion_le means (here ▸ member)
        have bound := fenced.current other before member claim old there
          (same.trans (update.key_write before))
        exact bound.trans grows
      · rw [if_neg here] at member
        exact fenced.current other row member claim old there same
    rcases mem_execute_claims claimed with before | ⟨_,_,_,returned,among,rfl⟩
    · exact old before
    · have here : service = other := there
      subst here
      have written : returned ∈ (state.execute pid service statement update).table service :=
        returned_mem among
      rw [Table.eq_of_key member written same.symm]
      exact le_refl _
  present := by
    intro claim claimed
    rw [State.keys_execute]
    rcases mem_execute_claims claimed with before | ⟨_,_,_,returned,among,rfl⟩
    · exact fenced.present claim before
    · obtain ⟨before,member,_,same⟩ := Table.mem_returning.mp among
      have same_id : before.id = returned.id := by rw [same,update.keepsKey]
      exact List.mem_map.mpr ⟨before,member,same_id⟩

end execution

theorem Fenced.serve {state after : State} {pid : Nat} {request : Request} {choice : Choice}
    {reply : Except Thrown (Reply returningRows request)} (fenced : Fenced state)
    (served : state.serve pid request choice = some (reply,after)) : Fenced after := by
  by_cases marks : request.Marks
  · cases request with
    | query service statement =>
      obtain ⟨update,means,_,rfl⟩ := State.serve_query served
      exact fenced.execute means
    | publish channel publication =>
      obtain ⟨_,rfl⟩ := State.serve_publish served
      exact fenced.congr rfl rfl
    | getChannel _ | inject _ | waitForConfirms _ | newDate | fencedPublish _ | declare _ =>
      exact marks.elim
  · have same := State.serve_same marks served
    exact fenced.congr same.table (congrArg History.claims same.history)

theorem Fenced.external {state after : State} {event : External} (fenced : Fenced state)
    (happened : state.external event = some after) : Fenced after := by
  cases event with
  | elapse ms =>
    obtain rfl := Option.some.inj happened
    exact fenced.congr rfl rfl
  | insert service recorded nextRetryAt =>
    obtain ⟨fresh,rfl⟩ := State.external_insert happened
    refine ⟨fenced.ordered,?_,?_⟩
    · intro other row member claim claimed there same
      rcases (State.mem_insert fresh).mp member with old | ⟨here,new⟩
      · exact fenced.current other row old claim claimed there same
      · subst here new
        have named := fenced.present claim claimed
        rw [there,same] at named
        exact absurd named fresh
    · intro claim claimed
      obtain ⟨row,member,same⟩ := List.mem_map.mp (fenced.present claim claimed)
      exact List.mem_map.mpr ⟨row,(State.mem_insert fresh).mpr (.inl member),same⟩
  | route index =>
    obtain ⟨_,_,_,rfl⟩ := State.settlePublish_eq happened
    exact fenced.congr rfl rfl
  | reject index =>
    obtain ⟨_,_,_,rfl⟩ := State.settlePublish_eq happened
    exact fenced.congr rfl rfl

/-- Whatever is claimed, settled, reaped or replayed, the versions of the claims of a row grow, and the row
carries the last. -/
theorem Fenced.sound (settings : Settings) :
    (relayWorld returningRows settings).Sound (settlement settings) settled (fun _ _ => True) (fun _ => Fenced)
      (fun _ _ _ => True) :=
  relay_sound (fun _ _ _ => trivial)
    (fun _ _ _ _ _ _ _ _ fenced _ _ _ _ served =>
      ⟨fenced.serve served,fun _ _ => trivial,fun _ _ _ _ => trivial⟩)
    (fun _ _ _ _ _ _ => trivial)
    (fun _ _ _ fenced _ happened => ⟨fenced.external happened,fun _ _ _ => trivial⟩)

theorem Fenced.superseded {state : State} (fenced : Fenced state) {service : Service}
    {statement : Statement} {scan : List Nat} {update : Update OutboxEvent OutboxEvent.id}
    {id : Nat} {version : Int} {earlier later : List (Token × Nat)} {claimant : Nat}
    {newer : Token × Nat}
    (means : statement.update (state.table service) state.now scan = some update)
    (settles : statement.settles = some (id,version))
    (history : state.history.claims = earlier ++ (⟨service,id,version⟩,claimant) :: later)
    (superseded : newer ∈ later) (same : SameRow ⟨service,id,version⟩ newer.1) :
    ∀ row ∈ state.table service, ¬ update.cond row := by
  intro row member matched
  obtain ⟨same_id,same_version⟩ := settles_cond means settles member matched
  have ordered := fenced.ordered
  rw [history] at ordered
  have above := List.rel_of_pairwise_cons (List.pairwise_append.mp ordered).2.1 superseded same
  have claimed : newer ∈ state.history.claims := by
    rw [history]
    exact List.mem_append_right _ (List.mem_cons_of_mem _ superseded)
  have bound := fenced.current service row member newer claimed same.1.symm
    (same.2.symm.trans same_id.symm)
  simp only at above
  omega

theorem execute_unmatched {state : State} {pid : Nat} {service : Service} {statement : Statement}
    {update : Update OutboxEvent OutboxEvent.id}
    (unmatched : ∀ row ∈ state.table service, ¬ update.cond row) :
    (state.execute pid service statement update).table = state.table := by
  unfold State.execute
  dsimp only
  rw [Table.apply_eq_self unmatched,Function.update_eq_self]

theorem settles_owes {service : Service} {statement : Statement} {id : Nat} {version : Int}
    (view : View) (settles : statement.settles = some (id,version)) :
    (view.observe (.query service statement) (.ok (statement.returned []))).owes = some service := by
  cases statement with
  | markSent id version => rfl
  | markFailed status attempts lastError nextRetryAt id version => rfl
  | claim _ _ | reap _ | replayOne _ | replayFailed _ => cases settles

/-- A settlement whose condition no row meets changes nothing and is reported as fenced. -/
theorem unmatched_settlement {settings : Settings} {now : Int} {table : Service → OutboxTable}
    {broker : Amqp.Topology} {pool after : RelayPool} {pid : Nat} {answer : Answer Choice Thrown}
    {service : Service} {statement : Statement} {id : Nat} {version : Int}
    (reached : (relayWorld returningRows settings).Reach (fun _ _ => True) (.initial now table broker) pool)
    (taken : (relayWorld returningRows settings).step pool (.resume pid answer) = some after)
    (performs : (relayWorld returningRows settings).happening pool (.resume pid answer) =
      some (.performs pid (.query service statement) answer))
    (settles : statement.settles = some (id,version))
    (unmatched : ∀ scan update, statement.update (pool.shared.table service) pool.shared.now scan = some update →
      ∀ row ∈ pool.shared.table service, ¬ update.cond row) :
    after.shared.table = pool.shared.table ∧
    ((∃ choice, answer = .served choice) →
      ∃ next, after.program pid = some (.await (.fencedPublish service) next)) := by
  obtain ⟨request,reply,view,next,resumed,event,answered,_,_,⟨rfl,_⟩,runs,follows⟩ :=
    World.reach_resumes (Fenced.sound settings) (Fenced.initial now table broker) reached
      (fun _ _ => trivial) taken
  rw [performs] at event
  obtain ⟨_,rfl,_⟩ := Happening.performs.inj (Option.some.inj event)
  constructor
  · rcases World.answer_cases answered with ⟨choice,served,_,performed,_⟩ | ⟨refused,_⟩
    · obtain ⟨update,means,_,executed⟩ := State.serve_query performed
      rw [executed]
      exact execute_unmatched (unmatched _ update means)
    · rw [refused]
  · intro was_served
    obtain ⟨choice,same_answer⟩ := was_served
    subst same_answer
    obtain ⟨update,means,replied,_⟩ := State.serve_query answered
    rw [Table.returning_eq_nil.mpr (unmatched _ update means)] at replied
    rw [replied] at follows
    obtain ⟨continuation,reports⟩ := owing_reports follows (settles_owes view settles)
    exact ⟨continuation,reports ▸ runs⟩

/-- Every claim of a row carries a version above all earlier claims of it. A settlement that
carries the version of a superseded claim changes no row, and the program that performed it
reports the lost race before anything else. -/
theorem superseded_settlement_fenced (settings : Settings) (now : Int) (table : Service → OutboxTable)
    (broker : Amqp.Topology) {pool : RelayPool}
    (reached : (relayWorld returningRows settings).Reach (fun _ _ => True) (.initial now table broker) pool) :
    pool.shared.history.claims.Pairwise
      (fun earlier later => SameRow earlier.1 later.1 → earlier.1.version < later.1.version) ∧
    ∀ pid answer after service statement id version earlier claimant later newer,
      (relayWorld returningRows settings).step pool (.resume pid answer) = some after →
      (relayWorld returningRows settings).happening pool (.resume pid answer) =
        some (.performs pid (.query service statement) answer) →
      statement.settles = some (id,version) →
      pool.shared.history.claims = earlier ++ (⟨service,id,version⟩,claimant) :: later →
      newer ∈ later → SameRow ⟨service,id,version⟩ newer.1 →
      after.shared.table = pool.shared.table ∧
      ((∃ choice, answer = .served choice) →
        ∃ next, after.program pid = some (.await (.fencedPublish service) next)) := by
  have first := Fenced.initial now table broker
  have fenced := World.reach_inv (Fenced.sound settings) first reached
  refine ⟨fenced.ordered,?_⟩
  intro pid answer after service statement id version earlier claimant later newer taken performs
    settles history superseded same
  exact unmatched_settlement reached taken performs settles
    (fun _ _ means => fenced.superseded means settles history superseded same)

/-- A relay is so slow that its lock is reaped and its row is claimed again before it settles. -/
def slowRelay : List RelayAction := [
  .external (.insert .messaging sampleCommand 0),
  .start (.runRelayTick .messaging "slow" 25),
  .resume 0 (.served { scan := [1] }),
  .external (.elapse 61000),
  .start (.reapStaleLocks .messaging),
  .resume 1 (.served {}),
  .start (.runRelayTick .messaging "quick" 25),
  .resume 2 (.served { scan := [1] }),
  .resume 0 (.served { channel := 7 }),
  .resume 0 (.served {}),
  .resume 0 (.served {}),
  .external (.route 0),
  .resume 0 (.served {})]

set_option maxRecDepth 4000 in
theorem slow_relay_fenced : ∃ pool after, sampleRun slowRelay = some pool ∧
    (relayWorld returningRows sampleSettings).step pool (.resume 0 (.served {})) = some after ∧
    after.shared.table = pool.shared.table ∧
    ∃ next, after.program 0 = some (.await (.fencedPublish .messaging) next) := by
  let pool := (sampleRun slowRelay).get (by decide)
  let after := ((relayWorld returningRows sampleSettings).step pool (.resume 0 (.served {}))).get (by decide)
  have ran : sampleRun slowRelay = some pool := (Option.some_get _).symm
  have taken : (relayWorld returningRows sampleSettings).step pool (.resume 0 (.served {})) = some after :=
    (Option.some_get _).symm
  have reached : (relayWorld returningRows sampleSettings).Reach (fun _ _ => True) sampleState pool :=
    Machine.run_reaches ran (by decide)
  have fenced := (superseded_settlement_fenced sampleSettings 0 _ _ reached).2 0 (.served {}) after
    .messaging (.markSent 1 1) 1 1 [] 0 [(⟨.messaging,1,2⟩,2)] (⟨.messaging,1,2⟩,2) taken rfl rfl
    (by decide) List.mem_cons_self ⟨rfl,rfl⟩
  exact ⟨pool,after,ran,taken,fenced.1,fenced.2 ⟨_,rfl⟩⟩

end MessagingPlatform.Outbox
