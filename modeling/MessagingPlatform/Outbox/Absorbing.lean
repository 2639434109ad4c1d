import MessagingPlatform.Outbox.Confirmed
import MessagingPlatform.Outbox.Fencing

/-! Sent rows stay sent. The only statement that can move a sent row is a `markFailed` with the
version of the claim that made it sent; a relay performs one when the answer of its own
`markSent` is lost after the update took effect. -/
namespace MessagingPlatform.Outbox
open Driver

/-- No failure is recorded for a claim whose own `markSent` took effect. -/
def settlesOnce (state : State) : RelayEvent → Bool
  | .performs _ (.query service (.markFailed _ _ _ _ id version)) answer =>
      answer.choice?.all (fun _ => decide (⟨service,id,version⟩ ∉ state.history.sent))
  | _ => true

def SettlesOnce (state : State) (event : RelayEvent) : Prop := settlesOnce state event = true

instance (state : State) (event : RelayEvent) : Decidable (SettlesOnce state event) :=
  inferInstanceAs (Decidable (_ = true))

def KeepsSent (before after : State) : Prop :=
  ∀ service, ∀ row ∈ before.table service, row.status = .sent →
    ∃ kept ∈ after.table service, kept.id = row.id ∧ kept.status = .sent ∧
      kept.sentAt = row.sentAt ∧ kept.attempts = row.attempts

/-- The sent rows are those that carry the version of a claim whose `markSent` took effect. -/
structure SentByClaim (state : State) : Prop where
  fenced : Fenced state
  marked : ∀ token ∈ state.history.sent, ∃ row ∈ state.table token.service,
    row.token token.service = token ∧ row.status = .sent
  sent : ∀ service, ∀ row ∈ state.table service, row.status = .sent →
    row.token service ∈ state.history.sent

def Owns (pid : Nat) (state : State) (view : View) : Prop :=
  ∀ entry ∈ view.fresh, (entry.2.token entry.1,pid) ∈ state.history.claims ∧
    entry.2.token entry.1 ∉ state.history.sent

theorem Fenced.one_claimant {state : State} (fenced : Fenced state) {token : Token} {pid other : Nat}
    (first : (token,pid) ∈ state.history.claims) (second : (token,other) ∈ state.history.claims) :
    pid = other := by
  have distinct : (state.history.claims.map Prod.fst).Nodup := by
    refine List.pairwise_map.mpr (fenced.ordered.imp ?_)
    intro left right ordered same
    exact lt_irrefl _ (same ▸ ordered ⟨congrArg Token.service same,congrArg Token.id same⟩)
  exact congrArg Prod.snd (List.inj_on_of_nodup_map distinct first second rfl)

section execution
variable {settings : Settings} {state : State} {pid : Nat} {service : Service}
  {statement : Statement} {update : Update OutboxEvent OutboxEvent.id} {choice : Choice} {view : View}
  {answer : Answer Choice Thrown}

theorem SentByClaim.sent_unmatched (sentByClaim : SentByClaim state) (owns : Owns pid state view)
    (allowed : (settlement settings).allows view (.query service statement))
    (means : statement.update (state.table service) state.now choice.scan = some update)
    (chosen : answer.choice? = some choice)
    (permitted : SettlesOnce state (.performs pid (.query service statement) answer))
    {row : OutboxEvent} (member : row ∈ state.table service) (sent : row.status = .sent) :
    ¬ update.cond row := by
  intro matched
  have recorded := sentByClaim.sent service row member sent
  have writes := Statement.write_cases means member matched
  generalize update.set row = after at writes
  cases writes with
  | claim due =>
    simp only [OutboxEvent.due,Bool.and_eq_true,beq_iff_eq] at due
    exact absurd (sent.symm.trans due.1) (by decide)
  | markSent =>
    obtain ⟨_,claimed,_,fresh,token,_⟩ := allowed
    have unsent := (owns _ fresh).2
    dsimp only at unsent
    rw [token] at unsent
    exact unsent recorded
  | markFailed =>
    simp only [SettlesOnce,settlesOnce,chosen,Option.all_some,decide_eq_true_eq] at permitted
    exact permitted recorded
  | reap pending locked stale => exact absurd (sent.symm.trans pending) (by decide)
  | replayOne failed => exact absurd (sent.symm.trans failed) (by decide)
  | replayFailed failed selected => exact absurd (sent.symm.trans failed) (by decide)

theorem mem_execute_sent {token : Token}
    (sent : token ∈ (state.execute pid service statement update).history.sent) :
    token ∈ state.history.sent ∨ ∃ id version, statement = .markSent id version ∧
      ∃ row ∈ (state.table service).returning update, token = row.token service := by
  cases statement with
  | markSent id version =>
    rcases List.mem_append.mp sent with old | new
    · exact .inl old
    · obtain ⟨row,returned,same⟩ := List.mem_map.mp new
      exact .inr ⟨id,version,rfl,row,returned,same.symm⟩
  | claim _ _ | markFailed _ _ _ _ _ _ | reap _ | replayOne _ | replayFailed _ => exact .inl sent

theorem execute_sent_mono {token : Token} (sent : token ∈ state.history.sent) :
    token ∈ (state.execute pid service statement update).history.sent := by
  cases statement with
  | markSent id version => exact List.mem_append_left _ sent
  | claim _ _ | markFailed _ _ _ _ _ _ | reap _ | replayOne _ | replayFailed _ => exact sent

theorem markSent_returned {id : Nat} {version : Int} {row : OutboxEvent}
    (means : (Statement.markSent id version).update (state.table service) state.now choice.scan =
      some update) (returned : row ∈ (state.table service).returning update) :
    row.status = .sent ∧ row.token service = ⟨service,id,version⟩ := by
  obtain ⟨before,member,matched,same⟩ := Table.mem_returning.mp returned
  have writes := Statement.write_cases means member matched
  rw [← same] at writes
  cases writes with
  | markSent => exact ⟨rfl,rfl⟩

theorem SentByClaim.keeps_execute (sentByClaim : SentByClaim state) (owns : Owns pid state view)
    (allowed : (settlement settings).allows view (.query service statement))
    (means : statement.update (state.table service) state.now choice.scan = some update)
    (chosen : answer.choice? = some choice)
    (permitted : SettlesOnce state (.performs pid (.query service statement) answer))
    {other : Service} {row : OutboxEvent} (member : row ∈ state.table other) (sent : row.status = .sent) :
    row ∈ (state.execute pid service statement update).table other := by
  rw [State.mem_execute]
  by_cases here : other = service
  · subst here
    rw [if_pos rfl]
    have unmatched := sentByClaim.sent_unmatched owns allowed means chosen permitted member sent
    exact ⟨row,member,(Update.write_of_not unmatched).symm⟩
  · rw [if_neg here]
    exact member

theorem SentByClaim.execute (sentByClaim : SentByClaim state) (owns : Owns pid state view)
    (allowed : (settlement settings).allows view (.query service statement))
    (means : statement.update (state.table service) state.now choice.scan = some update)
    (chosen : answer.choice? = some choice)
    (permitted : SettlesOnce state (.performs pid (.query service statement) answer)) :
    SentByClaim (state.execute pid service statement update) where
  fenced := sentByClaim.fenced.execute means
  marked token recorded := by
    rcases mem_execute_sent recorded with old | ⟨id,version,rfl,row,returned,rfl⟩
    · obtain ⟨row,member,same,sent⟩ := sentByClaim.marked token old
      exact ⟨row,sentByClaim.keeps_execute owns allowed means chosen permitted member sent,same,sent⟩
    · exact ⟨row,returned_mem returned,rfl,(markSent_returned means returned).1⟩
  sent other row member sent := by
    rw [State.mem_execute] at member
    by_cases here : other = service
    · subst here
      rw [if_pos rfl] at member
      obtain ⟨before,member,rfl⟩ := member
      by_cases matched : update.cond before
      · rw [Update.write_of matched] at sent ⊢
        have returned : update.set before ∈ (state.table other).returning update :=
          Table.mem_returning.mpr ⟨before,member,matched,rfl⟩
        have writes := Statement.write_cases means member matched
        generalize update.set before = after at writes sent returned
        cases writes with
        | claim due =>
          simp only [OutboxEvent.due,Bool.and_eq_true,beq_iff_eq] at due
          exact absurd (sent.symm.trans due.1) (by decide)
        | markSent => exact List.mem_append_right _ (List.mem_map_of_mem returned)
        | markFailed => exact absurd sent allowed.2
        | reap pending locked stale => exact absurd (sent.symm.trans pending) (by decide)
        | replayOne failed => cases sent
        | replayFailed failed selected => cases sent
      · rw [Update.write_of_not matched] at sent ⊢
        exact execute_sent_mono (sentByClaim.sent other before member sent)
    · rw [if_neg here] at member
      exact execute_sent_mono (sentByClaim.sent other row member sent)

theorem SentByClaim.claim_unsent (sentByClaim : SentByClaim state) {lockedBy : String} {limit : Nat}
    (means : (Statement.claim lockedBy limit).update (state.table service) state.now choice.scan =
      some update) {row : OutboxEvent} (returned : row ∈ (state.table service).returning update) :
    row.token service ∉ state.history.sent := by
  intro recorded
  obtain ⟨found,member,same,_⟩ := sentByClaim.marked _ recorded
  obtain ⟨before,present,same_id,next⟩ := claim_version means returned
  have found_id : found.id = row.id := congrArg Token.id same
  have found_version : found.lockVersion = row.lockVersion := congrArg Token.version same
  have one := Table.eq_of_key member present (found_id.trans same_id.symm)
  rw [one] at found_version
  omega

theorem open_execute {token : Token} {owner : Nat} (claimed : (token,owner) ∈ state.history.claims)
    (unsent : token ∉ state.history.sent)
    (means : statement.update (state.table service) state.now choice.scan = some update)
    (unmarked : ∀ id version, statement = .markSent id version → token ≠ ⟨service,id,version⟩) :
    (token,owner) ∈ (state.execute pid service statement update).history.claims ∧
      token ∉ (state.execute pid service statement update).history.sent := by
  refine ⟨?_,?_⟩
  · rw [execute_claims]
    exact List.mem_append_left _ claimed
  · intro recorded
    rcases mem_execute_sent recorded with old | ⟨id,version,same,row,returned,token_row⟩
    · exact unsent old
    · have marking := unmarked id version same
      subst same
      exact marking (token_row.trans (markSent_returned means returned).2)

theorem Owns.execute_error (owns : Owns pid state view)
    (means : statement.update (state.table service) state.now choice.scan = some update)
    (error : Thrown) : Owns pid (state.execute pid service statement update)
      (view.observe (.query service statement) (.error error)) := by
  intro entry member
  cases statement with
  | markSent id version =>
    obtain ⟨old,other⟩ := List.mem_filter.mp member
    refine open_execute (owns entry old).1 (owns entry old).2 means ?_
    intro _ _ same
    obtain ⟨rfl,rfl⟩ := Statement.markSent.inj same
    exact bne_iff_ne.mp other
  | claim _ _ | markFailed _ _ _ _ _ _ | reap _ | replayOne _ | replayFailed _ =>
    exact open_execute (owns entry member).1 (owns entry member).2 means
      (fun _ _ impossible => by cases impossible)

theorem Owns.execute_ok (sentByClaim : SentByClaim state) (owns : Owns pid state view)
    (means : statement.update (state.table service) state.now choice.scan = some update) :
    Owns pid (state.execute pid service statement update) (view.observe (.query service statement)
      (.ok (statement.returned ((state.table service).returning update)))) := by
  intro entry member
  cases statement with
  | markSent id version => exact owns.execute_error means (.ofMessage "") entry member
  | claim lockedBy limit =>
    obtain ⟨claimed,returned,rfl⟩ := List.mem_map.mp member
    obtain ⟨row,among,rfl⟩ := List.mem_map.mp returned
    exact ⟨List.mem_append_right _ (List.mem_map_of_mem among),sentByClaim.claim_unsent means among⟩
  | markFailed _ _ _ _ _ _ | reap _ | replayOne _ | replayFailed _ =>
    exact owns.execute_error means (.ofMessage "") entry member

theorem Owns.execute_other {other : Nat} {theirs : View} (sentByClaim : SentByClaim state)
    (owns : Owns pid state view) (allowed : (settlement settings).allows view (.query service statement))
    (means : statement.update (state.table service) state.now choice.scan = some update)
    (apart : other ≠ pid) (owned : Owns other state theirs) :
    Owns other (state.execute pid service statement update) theirs := by
  intro entry member
  obtain ⟨claimed,unsent⟩ := owned entry member
  refine open_execute claimed unsent means ?_
  intro id version same token
  subst same
  obtain ⟨_,mine,_,fresh,mineToken,_⟩ := allowed
  have mineClaimed := (owns _ fresh).1
  dsimp only at mineClaimed
  rw [mineToken,← token] at mineClaimed
  exact apart (sentByClaim.fenced.one_claimant claimed mineClaimed)

end execution

theorem SentByClaim.initial (now : Int) (broker : Amqp.Topology) :
    SentByClaim (.initial now (fun _ => Table.empty) broker) where
  fenced := .initial _ _ _
  marked _ impossible := by cases impossible
  sent _ _ member := (Table.not_mem_empty _ member).elim

theorem SentByClaim.congr {state after : State} (sentByClaim : SentByClaim state)
    (table : after.table = state.table) (claims : after.history.claims = state.history.claims)
    (sent : after.history.sent = state.history.sent) : SentByClaim after where
  fenced := sentByClaim.fenced.congr table claims
  marked := by rw [sent,table]; exact sentByClaim.marked
  sent := by rw [sent,table]; exact sentByClaim.sent

theorem Owns.congr {pid : Nat} {state after : State} {view less : View} (owns : Owns pid state view)
    (claims : after.history.claims = state.history.claims) (sent : after.history.sent = state.history.sent)
    (fresh : ∀ entry ∈ less.fresh, entry ∈ view.fresh) : Owns pid after less := by
  intro entry member
  rw [claims,sent]
  exact owns entry (fresh entry member)

theorem fresh_error (view : View) (request : Request) (error : Thrown) :
    ∀ entry ∈ (view.observe request (.error error)).fresh, entry ∈ view.fresh := by
  intro entry member
  cases request with
  | query service statement =>
    cases statement with
    | markSent id version => exact List.mem_of_mem_filter member
    | claim _ _ | markFailed _ _ _ _ _ _ | reap _ | replayOne _ | replayFailed _ => exact member
  | publish _ _ | getChannel _ | inject _ | waitForConfirms _ | newDate | fencedPublish _ | declare _ =>
    exact member

theorem fresh_same {request : Request} (view : View)
    (outcome : Except Thrown (Reply returningRows request)) (other : ∀ service statement,
      request ≠ .query service statement) : (view.observe request outcome).fresh = view.fresh := by
  cases request with
  | query service statement => exact absurd rfl (other service statement)
  | publish _ _ | getChannel _ | inject _ | waitForConfirms _ | newDate | fencedPublish _ | declare _ =>
    cases outcome <;> rfl

theorem SentByClaim.external {state after : State} {event : External} (sentByClaim : SentByClaim state)
    (happened : state.external event = some after) : SentByClaim after ∧
      after.history.claims = state.history.claims ∧ after.history.sent = state.history.sent := by
  cases event with
  | elapse ms =>
    obtain rfl := Option.some.inj happened
    exact ⟨sentByClaim.congr rfl rfl rfl,rfl,rfl⟩
  | insert service recorded nextRetryAt =>
    have fenced := sentByClaim.fenced.external happened
    obtain ⟨fresh,rfl⟩ := State.external_insert happened
    refine ⟨⟨fenced,?_,?_⟩,rfl,rfl⟩
    · intro token recorded
      obtain ⟨row,member,rest⟩ := sentByClaim.marked token recorded
      exact ⟨row,(State.mem_insert fresh).mpr (.inl member),rest⟩
    · intro other row member sent
      rcases (State.mem_insert fresh).mp member with old | ⟨_,rfl⟩
      · exact sentByClaim.sent other row old sent
      · cases sent
  | route index =>
    obtain ⟨_,_,_,rfl⟩ := State.settlePublish_eq happened
    exact ⟨sentByClaim.congr rfl rfl rfl,rfl,rfl⟩
  | reject index =>
    obtain ⟨_,_,_,rfl⟩ := State.settlePublish_eq happened
    exact ⟨sentByClaim.congr rfl rfl rfl,rfl,rfl⟩

/-- Rows are sent by the claims whose version they carry, as long as no failure is recorded for a claim that
has sent. -/
theorem SentByClaim.sound (settings : Settings) :
    (relayWorld returningRows settings).Sound (settlement settings) settled SettlesOnce (fun _ => SentByClaim) Owns := by
  refine relay_sound (fun _ _ _ _ impossible => by cases impossible) ?_ ?_ ?_
  · intro state pid view request answer choice reply after sentByClaim owns allowed permitted chosen served
    by_cases queries : ∃ service statement, request = .query service statement
    · obtain ⟨service,statement,rfl⟩ := queries
      obtain ⟨update,means,rfl,rfl⟩ := State.serve_query served
      refine ⟨sentByClaim.execute owns allowed means chosen permitted,?_,?_⟩
      · intro outcome possible
        rcases possible with rfl | ⟨error,rfl⟩
        · exact owns.execute_ok sentByClaim means
        · exact owns.execute_error means error
      · intro other apart theirs owned
        exact owns.execute_other sentByClaim allowed means apart owned
    · have other : ∀ service statement, request ≠ .query service statement :=
        fun service statement same => queries ⟨service,statement,same⟩
      obtain ⟨-,table,history⟩ := State.serve_apart other served
      have claims := congrArg History.claims history
      have sent := congrArg History.sent history
      refine ⟨sentByClaim.congr table claims sent,?_,?_⟩
      · intro outcome _
        exact owns.congr claims sent (fun _ member => fresh_same view outcome other ▸ member)
      · intro _ _ theirs owned
        exact owned.congr claims sent (fun _ member => member)
  · intro state pid view request error owns
    exact owns.congr rfl rfl (fresh_error view request error)
  · intro state event after sentByClaim _ happened
    obtain ⟨kept,claims,sent⟩ := sentByClaim.external happened
    exact ⟨kept,fun _ _ owns => owns.congr claims sent (fun _ member => member)⟩

theorem KeepsSent.of_mem {before after : State} (kept : ∀ service, ∀ row ∈ before.table service,
    row.status = .sent → row ∈ after.table service) : KeepsSent before after :=
  fun service row member sent => ⟨row,kept service row member sent,rfl,sent,rfl,rfl⟩

theorem external_mem {state after : State} {event : External} {service : Service} {row : OutboxEvent}
    (happened : state.external event = some after) (member : row ∈ state.table service) :
    row ∈ after.table service := by
  cases event with
  | elapse ms =>
    obtain rfl := Option.some.inj happened
    exact member
  | insert here recorded nextRetryAt =>
    obtain ⟨fresh,rfl⟩ := State.external_insert happened
    exact (State.mem_insert fresh).mpr (.inl member)
  | route index =>
    obtain ⟨_,_,_,rfl⟩ := State.settlePublish_eq happened
    exact member
  | reject index =>
    obtain ⟨_,_,_,rfl⟩ := State.settlePublish_eq happened
    exact member

theorem SentByClaim.failure_moves {settings : Settings} {state : State} {pid : Nat} {service : Service}
    {status : OutboxStatus} {attempts : Int} {lastError : String} {nextRetryAt : Option Int} {id : Nat}
    {version : Int} {scan : List Nat} {update : Update OutboxEvent OutboxEvent.id} {view : View}
    (sentByClaim : SentByClaim state)
    (allowed : (settlement settings).allows view
      (.query service (.markFailed status attempts lastError nextRetryAt id version)))
    (means : (Statement.markFailed status attempts lastError nextRetryAt id version).update
      (state.table service) state.now scan = some update)
    (recorded : ⟨service,id,version⟩ ∈ state.history.sent) :
    ¬ KeepsSent state (state.execute pid service
      (.markFailed status attempts lastError nextRetryAt id version) update) := by
  intro keeps
  obtain ⟨row,member,token,sent⟩ := sentByClaim.marked _ recorded
  obtain ⟨kept,present,same_id,still,_⟩ := keeps service row member sent
  obtain ⟨instant,rfl,rfl⟩ := Option.map_eq_some_iff.mp means
  obtain ⟨rfl,rfl⟩ : row.id = id ∧ row.lockVersion = version :=
    ⟨congrArg Token.id token,congrArg Token.version token⟩
  rw [State.mem_execute,if_pos rfl] at present
  obtain ⟨before,beforeMember,rfl⟩ := present
  have one := Table.eq_of_key beforeMember member ((Update.key_write _ before).symm.trans same_id)
  subst one
  rw [Update.write_of (by simp)] at still
  exact allowed.2 still

theorem settlesOnce_other {state : State} {pid : Nat} {request : Request} {answer : Answer Choice Thrown}
    (other : ∀ service statement, request ≠ .query service statement) :
    SettlesOnce state (.performs pid request answer) := by
  cases request with
  | query service statement => exact absurd rfl (other service statement)
  | publish _ _ | getChannel _ | inject _ | waitForConfirms _ | newDate | fencedPublish _ | declare _ => rfl

theorem settlesOnce_refused {state : State} {pid : Nat} {request : Request} {answer : Answer Choice Thrown}
    (refused : answer.choice? = none) : SettlesOnce state (.performs pid request answer) := by
  by_cases queries : ∃ service statement, request = .query service statement
  · obtain ⟨service,statement,rfl⟩ := queries
    cases statement with
    | markFailed _ _ _ _ _ _ => simp [SettlesOnce,settlesOnce,refused]
    | claim _ _ | markSent _ _ | reap _ | replayOne _ | replayFailed _ => rfl
  · exact settlesOnce_other (fun service statement same => queries ⟨service,statement,same⟩)

theorem SentByClaim.keeps_iff {settings : Settings} {state : State} {pid : Nat} {service : Service}
    {statement : Statement} {update : Update OutboxEvent OutboxEvent.id} {choice : Choice}
    {answer : Answer Choice Thrown} {view : View} (sentByClaim : SentByClaim state)
    (owns : Owns pid state view) (allowed : (settlement settings).allows view (.query service statement))
    (means : statement.update (state.table service) state.now choice.scan = some update)
    (chosen : answer.choice? = some choice) :
    KeepsSent state (state.execute pid service statement update) ↔
      SettlesOnce state (.performs pid (.query service statement) answer) := by
  constructor
  · intro keeps
    cases statement with
    | markFailed status attempts lastError nextRetryAt id version =>
      by_contra refused
      simp only [SettlesOnce,settlesOnce,chosen,Option.all_some,decide_eq_true_eq,not_not] at refused
      exact sentByClaim.failure_moves allowed means refused keeps
    | claim _ _ | markSent _ _ | reap _ | replayOne _ | replayFailed _ => rfl
  · intro permitted
    exact .of_mem (fun _ _ member sent =>
      sentByClaim.keeps_execute owns allowed means chosen permitted member sent)

/-- In a run in which no failure was recorded for a claim whose own `markSent` took effect, a step
keeps every sent row sent, with its `sent_at` and `attempts`, exactly when it records none either. -/
theorem sent_absorbing_iff (settings : Settings) (now : Int) (broker : Amqp.Topology) {pool : RelayPool}
    (reached : (relayWorld returningRows settings).Reach SettlesOnce
      (.initial now (fun _ => Table.empty) broker) pool) :
    ∀ action after, (relayWorld returningRows settings).step pool action = some after →
      (KeepsSent pool.shared after.shared ↔ (relayWorld returningRows settings).Permits SettlesOnce pool action) := by
  intro action after taken
  have sound := SentByClaim.sound settings
  have first := SentByClaim.initial now broker
  have sentByClaim := World.reach_inv sound first reached
  cases action with
  | resume pid answer =>
    obtain ⟨request,reply,view,event,answered,owns,allowed⟩ := World.reach_performs sound first reached taken
    have permits : (relayWorld returningRows settings).Permits SettlesOnce pool (.resume pid answer) ↔
        SettlesOnce pool.shared (.performs pid request answer) := by
      unfold World.Permits
      rw [event]
      exact ⟨fun permitted => permitted _ rfl,fun permitted _ same => Option.some.inj same ▸ permitted⟩
    rw [permits]
    rcases World.answer_cases answered with ⟨choice,served,chosen,performed,_⟩ | ⟨same,refused,_⟩
    · by_cases queries : ∃ service statement, request = .query service statement
      · obtain ⟨service,statement,rfl⟩ := queries
        obtain ⟨update,means,_,executed⟩ := State.serve_query performed
        rw [executed]
        exact sentByClaim.keeps_iff owns allowed means chosen
      · have other : ∀ service statement, request ≠ .query service statement :=
          fun service statement same => queries ⟨service,statement,same⟩
        refine iff_of_true (.of_mem ?_) (settlesOnce_other other)
        intro service row member _
        rw [(State.serve_apart other performed).2.1]
        exact member
    · rw [same]
      exact iff_of_true (.of_mem (fun _ _ member _ => member)) (settlesOnce_refused refused)
  | crash pid =>
    obtain ⟨_,_,rfl⟩ := Option.map_eq_some_iff.mp taken
    exact iff_of_true (.of_mem (fun _ _ member _ => member)) (fun _ same => Option.some.inj same ▸ rfl)
  | external event =>
    obtain ⟨state,happened,rfl⟩ := Option.map_eq_some_iff.mp taken
    exact iff_of_true (.of_mem (fun _ _ member _ => external_mem happened member))
      (fun _ same => Option.some.inj same ▸ rfl)
  | start task =>
    obtain rfl := Option.some.inj taken
    exact iff_of_true (.of_mem (fun _ _ member _ => member)) (fun _ same => Option.some.inj same ▸ rfl)

def tickAfterSent : List RelayAction := confirmedCommand ++ [
  .resume 0 (.served {}),
  .start (.runRelayTick .gateway "b" 25)]

set_option maxRecDepth 4000 in
theorem tick_after_sent_keeps : ∃ pool after, sampleRun tickAfterSent = some pool ∧
    (relayWorld returningRows sampleSettings).step pool (.resume 1 (.served { scan := [1] })) = some after ∧
    (∃ row ∈ pool.shared.table .gateway, row.status = .sent) ∧ KeepsSent pool.shared after.shared := by
  let pool := (sampleRun tickAfterSent).get (by decide)
  let action : RelayAction := .resume 1 (.served { scan := [1] })
  let after := ((relayWorld returningRows sampleSettings).step pool action).get (by decide)
  have ran : sampleRun tickAfterSent = some pool := (Option.some_get _).symm
  have taken : (relayWorld returningRows sampleSettings).step pool action = some after := (Option.some_get _).symm
  have reached : (relayWorld returningRows sampleSettings).Reach SettlesOnce sampleState pool :=
    Machine.run_reaches ran (by decide)
  have sent : ∃ row ∈ (pool.shared.table .gateway).rows, row.status = .sent := by decide
  have keeps := (sent_absorbing_iff sampleSettings 0 _ reached action after taken).mpr (by decide)
  exact ⟨pool,after,ran,taken,sent,keeps⟩

def lostMarkSent : List RelayAction := confirmedCommand ++ [
  .resume 0 (.lost {} (.ofMessage "Connection terminated unexpectedly")),
  .resume 0 (.served {})]

set_option maxRecDepth 4000 in
/-- The rejection is handled as a failed publish, and the sent row becomes pending again. -/
theorem lost_mark_sent_moves_row : ¬ ∀ pool, (relayWorld returningRows sampleSettings).Reach (fun _ _ => True)
    sampleState pool → ∀ action after, (relayWorld returningRows sampleSettings).step pool action = some after →
      KeepsSent pool.shared after.shared := by
  intro absorbing
  let pool := (sampleRun lostMarkSent).get (by decide)
  let action : RelayAction := .resume 0 (.served {})
  let after := ((relayWorld returningRows sampleSettings).step pool action).get (by decide +kernel)
  have ran : sampleRun lostMarkSent = some pool := (Option.some_get _).symm
  have taken : (relayWorld returningRows sampleSettings).step pool action = some after := (Option.some_get _).symm
  have reached : (relayWorld returningRows sampleSettings).Reach (fun _ _ => True) sampleState pool :=
    Machine.run_reaches ran (by decide)
  have sent : ∃ row ∈ (pool.shared.table .gateway).rows, row.status = .sent := by decide
  have moved : ∀ row ∈ (after.shared.table .gateway).rows, row.status = .pending := by decide +kernel
  obtain ⟨row,member,sent⟩ := sent
  obtain ⟨kept,present,_,still,_⟩ := absorbing pool reached action after taken .gateway row member sent
  exact absurd ((moved kept present).symm.trans still) (by decide)

end MessagingPlatform.Outbox
