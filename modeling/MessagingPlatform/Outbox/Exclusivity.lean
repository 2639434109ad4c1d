import MessagingPlatform.Outbox.Fencing

/-! Exclusive claims. The row locks of a claim end with its statement, and the claim does not
look at `locked_at`. Claims exclude each other in the runs in which every claim finds only
unlocked rows to take. -/
namespace MessagingPlatform.Outbox
open Driver

def Holding.live (settings : Settings) (now : Int) (holding : Holding) : Prop :=
  now - holding.since ≤ settings.lockTtlMs holding.token.service

instance (settings : Settings) (now : Int) (holding : Holding) : Decidable (holding.live settings now) :=
  inferInstanceAs (Decidable (_ ≤ _))

instance (left right : Token) : Decidable (SameRow left right) :=
  inferInstanceAs (Decidable (_ ∧ _))

/-- No row has two unsettled claims whose locks have both not expired. -/
def ClaimsExclusive (settings : Settings) (state : State) : Prop :=
  state.history.held.Pairwise (fun left right => SameRow left.token right.token →
    ¬ (left.live settings state.now ∧ right.live settings state.now))

def takesUnlocked (settings : Settings) (state : State) : RelayEvent → Bool
  | .performs _ (.query service (.claim _ limit)) answer =>
      answer.choice?.all (fun choice =>
        (candidates (state.table service) state.now choice.scan limit).all (fun row =>
          !row.lockedWithin (settings.lockTtlMs service) state.now))
  | _ => true

def TakesUnlocked (settings : Settings) (state : State) (event : RelayEvent) : Prop :=
  takesUnlocked settings state event = true

instance (settings : Settings) (state : State) (event : RelayEvent) :
    Decidable (TakesUnlocked settings state event) := inferInstanceAs (Decidable (_ = true))

theorem takesUnlocked_claim {settings : Settings} {state : State} {pid limit : Nat}
    {service : Service} {lockedBy : String} {answer : Answer Choice Thrown} {choice : Choice}
    (chosen : answer.choice? = some choice) :
    TakesUnlocked settings state (.performs pid (.query service (.claim lockedBy limit)) answer) ↔
      ∀ row ∈ candidates (state.table service) state.now choice.scan limit,
        row.lockedWithin (settings.lockTtlMs service) state.now = false := by
  simp [TakesUnlocked,takesUnlocked,chosen]

structure Exclusive (settings : Settings) (state : State) : Prop where
  fenced : Fenced state
  claimed : ∀ holding ∈ state.history.held, (holding.token,holding.pid) ∈ state.history.claims
  distinct : (state.history.held.map Holding.token).Nodup
  backed : ∀ holding ∈ state.history.held, holding.live settings state.now →
    ∃ row ∈ state.table holding.token.service, row.token holding.token.service = holding.token ∧
      row.lockedAt = some holding.since ∧ row.status = .pending

theorem Exclusive.exclusive {settings : Settings} {state : State}
    (exclusive : Exclusive settings state) : ClaimsExclusive settings state := by
  have distinct := List.pairwise_map.mp exclusive.distinct
  refine distinct.imp_of_mem ?_
  intro left right leftHeld rightHeld different same both
  obtain ⟨leftRow,leftMember,leftToken,_⟩ := exclusive.backed left leftHeld both.1
  obtain ⟨rightRow,rightMember,rightToken,_⟩ := exclusive.backed right rightHeld both.2
  have left_id : leftRow.id = left.token.id := congrArg Token.id leftToken
  have right_id : rightRow.id = right.token.id := congrArg Token.id rightToken
  rw [same.1] at leftMember leftToken
  have one := Table.eq_of_key leftMember rightMember (left_id.trans (same.2.trans right_id.symm))
  rw [one] at leftToken
  exact different (leftToken.symm.trans rightToken)

section execution
variable {settings : Settings} {state : State} {pid : Nat} {service : Service}
  {statement : Statement} {update : Update OutboxEvent OutboxEvent.id} {choice : Choice}

theorem candidate_of_claim {lockedBy : String} {limit : Nat} {scan : List Nat} {row : OutboxEvent}
    (means : (Statement.claim lockedBy limit).update (state.table service) state.now scan = some update)
    (member : row ∈ state.table service) (matched : update.cond row) :
    row ∈ candidates (state.table service) state.now scan limit := by
  obtain rfl := Option.some.inj means
  obtain ⟨chosen,among,same⟩ := List.mem_map.mp (of_decide_eq_true matched)
  exact Table.eq_of_key (mem_candidates among).1 member same ▸ among

theorem mem_execute_held {holding : Holding}
    (held : holding ∈ (state.execute pid service statement update).history.held) :
    (holding ∈ state.history.held ∧ ∀ id version, statement.settles = some (id,version) →
        holding.token ≠ ⟨service,id,version⟩) ∨
      ∃ lockedBy limit, statement = .claim lockedBy limit ∧
        ∃ row ∈ (state.table service).returning update, holding = ⟨row.token service,pid,state.now⟩ := by
  cases statement with
  | claim lockedBy limit =>
    rcases List.mem_append.mp held with old | new
    · exact .inl ⟨old,fun _ _ impossible => by cases impossible⟩
    · obtain ⟨row,returned,same⟩ := List.mem_map.mp new
      exact .inr ⟨lockedBy,limit,rfl,row,returned,same.symm⟩
  | markSent id version =>
    obtain ⟨old,other⟩ := List.mem_filter.mp held
    refine .inl ⟨old,?_⟩
    intro _ _ settles
    obtain ⟨rfl,rfl⟩ := Prod.mk.inj (Option.some.inj settles)
    exact bne_iff_ne.mp other
  | markFailed status attempts lastError nextRetryAt id version =>
    obtain ⟨old,other⟩ := List.mem_filter.mp held
    refine .inl ⟨old,?_⟩
    intro _ _ settles
    obtain ⟨rfl,rfl⟩ := Prod.mk.inj (Option.some.inj settles)
    exact bne_iff_ne.mp other
  | reap ttlMs => exact .inl ⟨held,fun _ _ impossible => by cases impossible⟩
  | replayOne id => exact .inl ⟨held,fun _ _ impossible => by cases impossible⟩
  | replayFailed eventType => exact .inl ⟨held,fun _ _ impossible => by cases impossible⟩

/-- A statement leaves the row of a live claim alone, unless it settles that very claim. -/
theorem live_unmatched {holding : Holding} {row : OutboxEvent} {answer : Answer Choice Thrown}
    (means : statement.update (state.table service) state.now choice.scan = some update)
    (chosen : answer.choice? = some choice)
    (permitted : TakesUnlocked settings state (.performs pid (.query service statement) answer))
    (reaps : ∀ ttlMs, statement = .reap ttlMs → ttlMs = settings.lockTtlMs service)
    (here : holding.token.service = service) (live : holding.live settings state.now)
    (member : row ∈ state.table service) (token : row.token service = holding.token)
    (locked : row.lockedAt = some holding.since) (pending : row.status = .pending)
    (unsettled : ∀ id version, statement.settles = some (id,version) →
      holding.token ≠ ⟨service,id,version⟩) : ¬ update.cond row := by
  intro matched
  unfold Holding.live at live
  rw [here] at live
  have writes := Statement.write_cases means member matched
  generalize update.set row = after at writes
  cases writes with
  | claim due =>
    have free := (takesUnlocked_claim chosen).mp permitted row (candidate_of_claim means member matched)
    simp only [OutboxEvent.lockedWithin,locked,Option.any_some,decide_eq_false_iff_not] at free
    exact free live
  | markSent => exact unsettled _ _ rfl token.symm
  | markFailed => exact unsettled _ _ rfl token.symm
  | reap _ lockedThen stale =>
    have same := reaps _ rfl
    obtain rfl := Option.some.inj (locked.symm.trans lockedThen)
    omega
  | replayOne failed => exact absurd (pending.symm.trans failed) (by decide)
  | replayFailed failed selected => exact absurd (pending.symm.trans failed) (by decide)

theorem Exclusive.execute {answer : Answer Choice Thrown} (exclusive : Exclusive settings state)
    (means : statement.update (state.table service) state.now choice.scan = some update)
    (chosen : answer.choice? = some choice)
    (permitted : TakesUnlocked settings state (.performs pid (.query service statement) answer))
    (reaps : ∀ ttlMs, statement = .reap ttlMs → ttlMs = settings.lockTtlMs service) :
    Exclusive settings (state.execute pid service statement update) where
  fenced := exclusive.fenced.execute means
  claimed := by
    intro holding held
    rw [execute_claims]
    rcases mem_execute_held held with ⟨old,_⟩ | ⟨lockedBy,limit,rfl,row,returned,rfl⟩
    · exact List.mem_append_left _ (exclusive.claimed holding old)
    · exact List.mem_append_right _ (List.mem_map_of_mem returned)
  distinct := by
    cases statement with
    | claim lockedBy limit =>
      have fenced : Fenced (state.execute pid service (.claim lockedBy limit) update) :=
        exclusive.fenced.execute means
      have ordered := fenced.ordered
      rw [execute_claims] at ordered
      have apart := (List.pairwise_append.mp ordered).2.2
      simp only [State.execute,History.note,List.map_append,List.map_map]
      refine List.nodup_append.mpr ⟨exclusive.distinct,?_,?_⟩
      · have ids := List.pairwise_map.mp ((state.table service).returning_keys_nodup update)
        refine List.pairwise_map.mpr (ids.imp ?_)
        intro left right other same
        exact other (congrArg Token.id same)
      · intro token old other new same
        obtain ⟨holding,held,rfl⟩ := List.mem_map.mp old
        obtain ⟨row,returned,rfl⟩ := List.mem_map.mp new
        have older := apart _ (exclusive.claimed holding held) _ (List.mem_map_of_mem returned)
        simp only [Function.comp_apply] at same
        rw [same] at older
        exact lt_irrefl _ (older ⟨rfl,rfl⟩)
    | markSent id version => exact exclusive.distinct.sublist (List.filter_sublist.map _)
    | markFailed status attempts lastError nextRetryAt id version =>
      exact exclusive.distinct.sublist (List.filter_sublist.map _)
    | reap ttlMs => exact exclusive.distinct
    | replayOne id => exact exclusive.distinct
    | replayFailed eventType => exact exclusive.distinct
  backed := by
    intro holding held live
    rcases mem_execute_held held with ⟨old,unsettled⟩ | ⟨lockedBy,limit,rfl,row,returned,rfl⟩
    · obtain ⟨row,member,token,locked,pending⟩ := exclusive.backed holding old live
      refine ⟨row,?_,token,locked,pending⟩
      rw [State.mem_execute]
      by_cases here : holding.token.service = service
      · rw [if_pos here]
        rw [here] at member token
        have unmatched := live_unmatched means chosen permitted reaps here live member token locked
          pending unsettled
        exact ⟨row,here ▸ member,(Update.write_of_not unmatched).symm⟩
      · rw [if_neg here]
        exact member
    · refine ⟨row,returned_mem returned,rfl,?_⟩
      obtain ⟨before,member,matched,same⟩ := Table.mem_returning.mp returned
      have writes := Statement.write_cases means member matched
      rw [← same] at writes
      cases writes with
      | claim due =>
        simp only [OutboxEvent.due,Bool.and_eq_true,beq_iff_eq] at due
        exact ⟨rfl,due.1⟩

end execution

theorem Exclusive.congr {settings : Settings} {state after : State}
    (exclusive : Exclusive settings state) (table : after.table = state.table)
    (claims : after.history.claims = state.history.claims) (held : after.history.held = state.history.held)
    (later : state.now ≤ after.now) : Exclusive settings after where
  fenced := exclusive.fenced.congr table claims
  claimed := by rw [held,claims]; exact exclusive.claimed
  distinct := by rw [held]; exact exclusive.distinct
  backed := by
    rw [held,table]
    intro holding present live
    refine exclusive.backed holding present ?_
    unfold Holding.live at live ⊢
    omega

theorem Exclusive.initial (settings : Settings) (now : Int) (table : Service → OutboxTable)
    (broker : Amqp.Topology) : Exclusive settings (.initial now table broker) where
  fenced := .initial now table broker
  claimed _ held := by cases held
  distinct := .nil
  backed _ held := by cases held

theorem Exclusive.external {settings : Settings} {state after : State} {event : External}
    (exclusive : Exclusive settings state) (happened : state.external event = some after) :
    Exclusive settings after := by
  cases event with
  | elapse ms =>
    obtain rfl := Option.some.inj happened
    exact exclusive.congr rfl rfl rfl (by dsimp only; omega)
  | insert service recorded nextRetryAt =>
    have fenced := exclusive.fenced.external happened
    obtain ⟨fresh,rfl⟩ := State.external_insert happened
    refine ⟨fenced,exclusive.claimed,exclusive.distinct,?_⟩
    intro holding held live
    obtain ⟨row,member,rest⟩ := exclusive.backed holding held live
    exact ⟨row,(State.mem_insert fresh).mpr (.inl member),rest⟩
  | route index =>
    obtain ⟨_,_,_,rfl⟩ := State.settlePublish_eq happened
    exact exclusive.congr rfl rfl rfl (le_refl _)
  | reject index =>
    obtain ⟨_,_,_,rfl⟩ := State.settlePublish_eq happened
    exact exclusive.congr rfl rfl rfl (le_refl _)

theorem Exclusive.serve {settings : Settings} {state after : State} {pid : Nat} {request : Request}
    {answer : Answer Choice Thrown} {choice : Choice} {view : View}
    {reply : Except Thrown (Reply returningRows request)} (exclusive : Exclusive settings state)
    (allowed : (settlement settings).allows view request) (chosen : answer.choice? = some choice)
    (permitted : TakesUnlocked settings state (.performs pid request answer))
    (served : state.serve pid request choice = some (reply,after)) : Exclusive settings after := by
  rcases State.serve_cases served with ⟨service,statement,update,rfl,means,rfl⟩ | ⟨now,table,history⟩
  · refine exclusive.execute means chosen permitted ?_
    intro ttlMs same
    subst same
    exact allowed.2
  · exact exclusive.congr table (congrArg History.claims history) (congrArg History.held history)
      (le_of_eq now.symm)

/-- A live claim stays written in its row as long as every claim finds its rows unlocked. -/
theorem Exclusive.sound (settings : Settings) :
    (relayWorld returningRows settings).Sound (settlement settings) settled (TakesUnlocked settings)
      (fun _ => Exclusive settings) (fun _ _ _ => True) :=
  relay_sound (fun _ _ _ => trivial)
    (fun _ _ _ _ _ _ _ _ exclusive _ allowed permitted chosen served =>
      ⟨exclusive.serve allowed chosen permitted served,fun _ _ => trivial,fun _ _ _ _ => trivial⟩)
    (fun _ _ _ _ _ _ => trivial)
    (fun _ _ _ exclusive _ happened => ⟨exclusive.external happened,fun _ _ _ => trivial⟩)

/-- In a run whose claims all find only unlocked rows to take, a row is never in two unexpired
unsettled claims, and no claim returns a row that is in one. A claim that finds another row to
take returns it locked. -/
theorem claims_exclusive_when_unlocked (settings : Settings) (now : Int) (table : Service → OutboxTable)
    (broker : Amqp.Topology) {pool : RelayPool}
    (reached : (relayWorld returningRows settings).Reach (TakesUnlocked settings)
      (.initial now table broker) pool) :
    ClaimsExclusive settings pool.shared ∧
    ∀ pid service lockedBy limit choice update,
      (Statement.claim lockedBy limit).update (pool.shared.table service) pool.shared.now choice.scan =
        some update →
      if TakesUnlocked settings pool.shared
          (.performs pid (.query service (.claim lockedBy limit)) (.served choice)) then
        ∀ row ∈ (pool.shared.table service).returning update, ∀ holding ∈ pool.shared.history.held,
          SameRow holding.token (row.token service) → ¬ holding.live settings pool.shared.now
      else ∃ row ∈ pool.shared.table service, update.cond row ∧
        row.lockedWithin (settings.lockTtlMs service) pool.shared.now := by
  have exclusive := World.reach_inv (Exclusive.sound settings)
    (Exclusive.initial settings now table broker) reached
  refine ⟨exclusive.exclusive,?_⟩
  intro pid service lockedBy limit choice update means
  split
  next permitted =>
    intro row returned holding held same live
    obtain ⟨found,member,token,locked,pending⟩ := exclusive.backed holding held live
    obtain ⟨before,present,matched,written⟩ := Table.mem_returning.mp returned
    have here : holding.token.service = service := same.1
    rw [here] at member token
    have found_id : found.id = holding.token.id := congrArg Token.id token
    have row_id : row.id = before.id := by rw [written,update.keepsKey]
    have one := Table.eq_of_key member present (found_id.trans (same.2.trans row_id))
    subst one
    exact live_unmatched means rfl permitted (fun _ impossible => by cases impossible) here live
      present token locked pending (fun _ _ impossible => by cases impossible) matched
  next refused =>
    rw [takesUnlocked_claim rfl] at refused
    obtain ⟨row,refused⟩ := not_forall.mp refused
    obtain ⟨among,locked⟩ := Classical.not_imp.mp refused
    obtain rfl := Option.some.inj means
    refine ⟨row,(mem_candidates among).1,?_,by simpa using locked⟩
    exact decide_eq_true (List.mem_map_of_mem among)

/-- A second tick that finds the lock of the first one expired. -/
def tickAfterExpiry : List RelayAction := [
  .external (.insert .gateway sampleCommand 0),
  .start (.runRelayTick .gateway "a" 25),
  .resume 0 (.served { scan := [1] }),
  .external (.elapse 60001),
  .start (.runRelayTick .gateway "b" 25),
  .resume 1 (.served { scan := [1] })]

set_option maxRecDepth 4000 in
theorem tick_after_expiry_exclusive : ∃ pool, sampleRun tickAfterExpiry = some pool ∧
    pool.shared.history.held.length = 2 ∧ ClaimsExclusive sampleSettings pool.shared := by
  let pool := (sampleRun tickAfterExpiry).get (by decide)
  have ran : sampleRun tickAfterExpiry = some pool := (Option.some_get _).symm
  have reached : (relayWorld returningRows sampleSettings).Reach (TakesUnlocked sampleSettings) sampleState pool :=
    Machine.run_reaches ran (by decide)
  exact ⟨pool,ran,by decide,(claims_exclusive_when_unlocked sampleSettings 0 _ _ reached).1⟩

/-- Two ticks, of one instance or of two, within the lock's time to live. -/
def overlappingTicks : List RelayAction := [
  .external (.insert .gateway sampleCommand 0),
  .start (.runRelayTick .gateway "a" 25),
  .resume 0 (.served { scan := [1] }),
  .external (.elapse 5000),
  .start (.runRelayTick .gateway "b" 25),
  .resume 1 (.served { scan := [1] })]

set_option maxRecDepth 4000 in
/-- The second tick takes the row that the first one still holds. -/
theorem overlapping_ticks_share_row : ¬ ∀ pool, (relayWorld returningRows sampleSettings).Reach (fun _ _ => True)
    sampleState pool → ClaimsExclusive sampleSettings pool.shared := by
  intro exclusive
  let pool := (sampleRun overlappingTicks).get (by decide)
  have ran : sampleRun overlappingTicks = some pool := (Option.some_get _).symm
  have reached : (relayWorld returningRows sampleSettings).Reach (fun _ _ => True) sampleState pool :=
    Machine.run_reaches ran (by decide)
  have shared : pool.shared.history.held = [⟨⟨.gateway,1,1⟩,0,0⟩,⟨⟨.gateway,1,2⟩,1,5000⟩] := by decide
  have now : pool.shared.now = 5000 := by decide
  have impossible := exclusive pool reached
  unfold ClaimsExclusive at impossible
  rw [shared,now] at impossible
  exact absurd impossible (by decide)

end MessagingPlatform.Outbox
