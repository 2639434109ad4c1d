import MessagingPlatform.Outbox.Absorbing
import MessagingPlatform.Outbox.Requests

/-! Failed rows stay as they are until they are replayed. A program settles no claim but its own, and none that
it has recorded a failure of, so when a row has failed no program is left that could settle it again. -/
namespace MessagingPlatform.Outbox
open Driver

/-- The view is the list of the claims that the program may still settle. -/
def settling : Protocol (List Token) Thrown Request (Reply returningRows) where
  allows view
    | .query service statement => ∀ id version, statement.settles = some (id,version) →
        (⟨service,id,version⟩ : Token) ∈ view
    | _ => True
  moves before request outcome after := match request, outcome with
    | .query service (.claim _ _), .ok rows =>
        after = List.map (ClaimedRow.token service) rows ∧ (List.map ClaimedRow.id rows).Nodup
    | .query service (.markFailed _ _ _ _ id version), _ => after = before.filter (fun token => token != ⟨service,id,version⟩)
    | _, _ => after = before

section programs

def Request.unclaimed : Request → Prop
  | .query _ (.claim _ _) | .query _ (.markFailed _ _ _ _ _ _) => False
  | _ => True

theorem settling_moves {request : Request} (unclaimed : request.unclaimed) {view after : List Token}
    {outcome : Except Thrown (Reply returningRows request)} (moved : settling.moves view request outcome after) :
    after = view := by
  cases request with
  | query service statement =>
    cases statement with
    | claim _ _ | markFailed _ _ _ _ _ _ => exact unclaimed.elim
    | markSent _ _ | reap _ | replayOne _ | replayFailed _ => cases outcome <;> exact moved
  | newDate | getChannel _ | inject _ | publish _ _ | waitForConfirms _ | fencedPublish _ | declare _ =>
    cases outcome <;> exact moved

theorem settling_still {request : Request} (unclaimed : request.unclaimed) {view : List Token}
    (allowed : settling.allows view request) : settling.Still (Outbox.request request) view :=
  Protocol.Follows.call allowed (fun _ _ moved => settling_moves unclaimed moved)

def Request.idle : Request → Prop
  | .query _ statement => statement.settles = none ∧ ∀ lockedBy limit, statement ≠ .claim lockedBy limit
  | _ => True

theorem Request.idle.unclaimed {request : Request} (idle : request.idle) : request.unclaimed := by
  cases request with
  | query service statement =>
    cases statement with
    | claim lockedBy limit => exact idle.2 lockedBy limit rfl
    | markFailed _ _ _ _ _ _ => cases idle.1
    | markSent _ _ | reap _ | replayOne _ | replayFailed _ => trivial
  | newDate | getChannel _ | inject _ | publish _ _ | waitForConfirms _ | fencedPublish _ | declare _ => trivial

theorem Request.idle.allowed {request : Request} (idle : request.idle) (view : List Token) :
    settling.allows view request := by
  cases request with
  | query service statement =>
    intro id version settles
    rw [idle.1] at settles
    cases settles
  | newDate | getChannel _ | inject _ | publish _ _ | waitForConfirms _ | fencedPublish _ | declare _ => trivial

theorem settling_of_idle {Value : Type} {program : Program returningRows Value} (asks : program.Asks Request.idle)
    (view : List Token) : settling.Follows program view (fun _ _ => True) := by
  refine Protocol.Follows.mono (asks.still (fun _ idle => idle.allowed view) ?_) (fun _ _ _ => trivial)
  intro request outcome after idle moved
  exact settling_moves idle.unclaimed moved

namespace RelayService

variable (relay : RelayService) (engine : Engine)

/-- The failure closes the claim, and no other. -/
theorem markFailedAttempt_settling (row : ClaimedRow) (err : Thrown) {view : List Token}
    (mine : row.token relay.service ∈ view) :
    settling.Follows (relay.markFailedAttempt engine row err) view
      (fun after _ => ∀ token ∈ view, token ≠ row.token relay.service → token ∈ after) := by
  unfold markFailedAttempt
  simp only [Async.bind_eq]
  refine (settling_still (by trivial) (by trivial)).before ?_ (fun _ token member _ => member)
  intro now
  have dated : settling.Still (newStatusAndRetryAt
      (computeFailureOutcome engine row.attempts row.maxAttempts now) : Program returningRows _) view := by
    cases computeFailureOutcome engine row.attempts row.maxAttempts now with
    | deadLetter newAttempts => exact (settling_still (by trivial) (by trivial)).bind (fun _ => rfl)
    | retry nextRetryAt newAttempts => exact rfl
  refine dated.before ?_ (fun _ token member _ => member)
  intro next
  have written : settling.Follows (query relay.service (.markFailed next.1
      (computeFailureOutcome engine row.attempts row.maxAttempts now).newAttempts err.message next.2
      row.id row.lockVersion)) view
      (fun after _ => ∀ token ∈ view, token ≠ row.token relay.service → token ∈ after) := by
    refine Protocol.Follows.call ?_ ?_
    · intro id version settles
      obtain ⟨rfl,rfl⟩ := Prod.mk.inj (Option.some.inj settles)
      exact mine
    · intro outcome after moved
      have closed : after = view.filter (fun token => token != row.token relay.service) := by
        cases outcome <;> exact moved
      subst closed
      intro token member other
      exact List.mem_filter.mpr ⟨member,bne_iff_ne.mpr other⟩
  refine written.bind ?_ (fun _ _ kept => kept)
  intro after result kept
  split
  · exact kept
  · refine (settling_still (by trivial) (by trivial)).mono ?_
    intro later outcome same
    exact same ▸ kept

theorem publishOne_settling (row : ClaimedRow) {view : List Token} (mine : row.token relay.service ∈ view) :
    settling.Follows (relay.publishOne engine row) view
      (fun after _ => ∀ token ∈ view, token ≠ row.token relay.service → token ∈ after) := by
  unfold publishOne
  refine Protocol.Follows.tryCatch (M := fun after _ => after = view) ?_ ?_ ?_
  · refine (settling_still (by trivial) (by trivial)).bind ?_
    intro channel
    refine (settling_still (by trivial) (by trivial)).bind ?_
    intro carrier
    refine (settling_still (by trivial) (by trivial)).bind ?_
    intro published
    cases published with
    | false => exact rfl
    | true =>
      refine (settling_still (by trivial) (by trivial)).bind ?_
      intro confirmed
      have marks : settling.Still (relay.markSent row.id row.lockVersion : Program returningRows Bool) view := by
        refine (settling_still (by trivial) ?_).bind (fun _ => rfl)
        intro id version settles
        obtain ⟨rfl,rfl⟩ := Prod.mk.inj (Option.some.inj settles)
        exact mine
      refine marks.bind ?_
      intro stillOwned
      cases stillOwned with
      | true => exact rfl
      | false => exact settling_still (by trivial) (by trivial)
  · intro after value same
    have here : after = view := same
    exact fun token member _ => here ▸ member
  · intro after error same
    have here : after = view := same
    subst here
    exact relay.markFailedAttempt_settling engine row error mine

/-- The rows of a batch are distinct, so that a failure of one leaves the claims of the rest open. -/
theorem published_settling (rows : List ClaimedRow) {view : List Token} (distinct : (rows.map ClaimedRow.id).Nodup)
    (mine : ∀ row ∈ rows, row.token relay.service ∈ view) :
    settling.Follows (rows.forM (relay.publishOne engine)) view (fun _ _ => True) := by
  induction rows generalizing view with
  | nil => trivial
  | cons row rest ih =>
    obtain ⟨new,distinct⟩ := List.nodup_cons.mp distinct
    refine (relay.publishOne_settling engine row (mine row List.mem_cons_self)).bind ?_ (fun _ _ _ => trivial)
    intro after _ kept
    refine ih distinct ?_
    intro other member
    refine kept _ (mine other (List.mem_cons_of_mem _ member)) ?_
    intro same
    have same_id : other.id = row.id := congrArg Token.id same
    exact new (same_id ▸ List.mem_map_of_mem member)

def Opens (after : List Token) (outcome : Except Thrown (Option (List ClaimedRow))) : Prop :=
  ∀ rows, outcome = .ok (some rows) →
    (List.map ClaimedRow.id rows).Nodup ∧ ∀ row ∈ rows, row.token relay.service ∈ after

theorem runRelayTick_settling (instanceId : String) (batchSize : Nat) (view : List Token) :
    settling.Follows (relay.runRelayTick (relay.publishOne engine) instanceId batchSize) view (fun _ _ => True) := by
  unfold runRelayTick relayTick
  simp only [Async.bind_eq]
  have batch : settling.Follows
      ((relay.claimBatch instanceId batchSize).bind (fun rows => .resolve (some rows))) view relay.Opens := by
    have claimed : settling.Follows (relay.claimBatch instanceId batchSize : Program returningRows _) view
        (fun after outcome => ∀ rows, outcome = .ok rows →
          (List.map ClaimedRow.id rows).Nodup ∧ ∀ row ∈ rows, row.token relay.service ∈ after) := by
      refine Protocol.Follows.call (fun _ _ settles => by cases settles) ?_
      intro outcome after moved
      cases outcome with
      | ok rows =>
        obtain ⟨rfl,distinct⟩ := moved
        intro same equal
        obtain rfl := Except.ok.inj equal
        exact ⟨distinct,fun row member => List.mem_map_of_mem member⟩
      | error error => exact fun _ impossible => by cases impossible
    refine claimed.bind ?_ ?_
    · intro after rows learned same equal
      obtain rfl := Option.some.inj (Except.ok.inj equal)
      exact learned rows rfl
    · intro after error learned _ impossible
      cases impossible
  refine Protocol.Follows.bind (M := relay.Opens) (batch.tryCatch (fun _ _ learned => learned) ?_) ?_
    (fun _ _ _ => trivial)
  · intro after error learned _ impossible
    cases impossible
  · intro after claim learned
    cases claim with
    | none => exact trivial
    | some rows =>
      obtain ⟨distinct,mine⟩ := learned rows rfl
      by_cases nothing : rows.length = 0
      · simp only [nothing,if_true]
        exact trivial
      · simp only [nothing,if_false]
        exact relay.published_settling engine rows distinct mine

end RelayService

theorem Request.idle_of_reaps {request : Request} (reaps : request.reaps) : request.idle := by
  cases request with
  | query service statement =>
    cases statement with
    | reap ttlMs => exact ⟨rfl,fun _ _ impossible => by cases impossible⟩
    | claim _ _ | markSent _ _ | markFailed _ _ _ _ _ _ | replayOne _ | replayFailed _ => exact reaps.elim
  | newDate | getChannel _ | inject _ | publish _ _ | waitForConfirms _ | fencedPublish _ | declare _ => trivial

theorem Request.idle_of_replays {request : Request} (replays : request.replays) : request.idle := by
  cases request with
  | query service statement =>
    cases statement with
    | replayOne _ | replayFailed _ => exact ⟨rfl,fun _ _ impossible => by cases impossible⟩
    | claim _ _ | markSent _ _ | markFailed _ _ _ _ _ _ | reap _ => exact replays.elim
  | newDate | getChannel _ | inject _ | publish _ _ | waitForConfirms _ | fencedPublish _ | declare _ => trivial

theorem Request.idle_of_declares {request : Request} (declares : request.declares) : request.idle := by
  cases request with
  | query service statement => exact declares.elim
  | newDate | getChannel _ | inject _ | publish _ _ | waitForConfirms _ | fencedPublish _ | declare _ => trivial

theorem Task.program_settling (settings : Settings) (task : Task) (view : List Token) :
    settling.Follows (task.program settings) view (fun _ _ => True) := by
  cases task with
  | runRelayTick service instanceId batchSize =>
    exact service.relay.runRelayTick_settling settings.engine instanceId batchSize view
  | reapStaleLocks service =>
    exact settling_of_idle ((service.relay.reapStaleLocks_asks _).mono (fun _ => Request.idle_of_reaps)) view
  | replayById service id =>
    exact settling_of_idle ((Task.replayById_asks settings service id).mono (fun _ => Request.idle_of_replays)) view
  | replayAllFailed service eventType =>
    exact settling_of_idle
      ((Task.replayAllFailed_asks settings service eventType).mono (fun _ => Request.idle_of_replays)) view
  | assertTopology =>
    exact settling_of_idle ((Task.assertTopology_asks settings).mono (fun _ => Request.idle_of_declares)) view

end programs

inductive Statement.Resets (row : OutboxEvent) : Statement → Prop
  | one : Resets row (.replayOne row.id)
  | all {eventType : Option String} (selected : eventType.all (fun type => row.eventType == type)) :
      Resets row (.replayFailed eventType)

def Settleable (pid : Nat) (state : State) (view : List Token) : Prop :=
  ∀ token ∈ view, (token,pid) ∈ state.history.claims ∧
    ∀ row ∈ state.table token.service, row.token token.service = token → row.status ≠ .failed

section execution
variable {state : State} {pid : Nat} {service : Service} {statement : Statement}
  {update : Update OutboxEvent OutboxEvent.id} {scan : List Nat} {view : List Token}

/-- Only a settlement with the token of a failed row, or a replay of it, matches the row. -/
theorem Settleable.failed_write (settleable : Settleable pid state view)
    (allowed : settling.allows view (.query service statement))
    (means : statement.update (state.table service) state.now scan = some update)
    {row : OutboxEvent} (member : row ∈ state.table service) (failed : row.status = .failed) :
    update.write row = row ∨ statement.Resets row ∧ update.write row = row.replayed state.now := by
  by_cases matched : update.cond row
  · rw [Update.write_of matched]
    have writes := Statement.write_cases means member matched
    generalize update.set row = after at writes
    cases writes with
    | claim due =>
      simp only [OutboxEvent.due,Bool.and_eq_true,beq_iff_eq] at due
      exact absurd (failed.symm.trans due.1) (by decide)
    | markSent => exact absurd failed ((settleable _ (allowed _ _ rfl)).2 row member rfl)
    | markFailed => exact absurd failed ((settleable _ (allowed _ _ rfl)).2 row member rfl)
    | reap pending locked stale => exact absurd (failed.symm.trans pending) (by decide)
    | replayOne _ => exact .inr ⟨.one,rfl⟩
    | replayFailed _ selected => exact .inr ⟨.all selected,rfl⟩
  · exact .inl (Update.write_of_not matched)

/-- The row of an open claim fails only by a failure that is recorded for that very claim. -/
theorem unfailed_execute (fenced : Fenced state) {token : Token} {owner : Nat}
    (claimed : (token,owner) ∈ state.history.claims)
    (unfailed : ∀ row ∈ state.table token.service, row.token token.service = token → row.status ≠ .failed)
    (means : statement.update (state.table service) state.now scan = some update)
    (kept : ∀ status attempts lastError nextRetryAt id version,
      statement = .markFailed status attempts lastError nextRetryAt id version → token ≠ ⟨service,id,version⟩) :
    ∀ row ∈ (state.execute pid service statement update).table token.service,
      row.token token.service = token → row.status ≠ .failed := by
  intro row member same
  rw [State.mem_execute] at member
  by_cases here : token.service = service
  · rw [if_pos here] at member
    obtain ⟨before,present,rfl⟩ := member
    by_cases matched : update.cond before
    · rw [Update.write_of matched] at same ⊢
      have writes := Statement.write_cases means (here ▸ present) matched
      generalize update.set before = after at writes same
      cases writes with
      | claim due =>
        -- the new version is above that of every earlier claim
        have above := fenced.current token.service before present (token,owner) claimed rfl (congrArg Token.id same).symm
        have version : before.lockVersion + 1 = token.version := congrArg Token.version same
        dsimp only at above
        omega
      | markSent => exact fun failed => by cases failed
      | markFailed => exact absurd (here ▸ same.symm) (kept _ _ _ _ _ _ rfl)
      | reap pending locked stale => exact unfailed before present same
      | replayOne _ => exact fun failed => by cases failed
      | replayFailed _ _ => exact fun failed => by cases failed
    · rw [Update.write_of_not matched] at same ⊢
      exact unfailed before present same
  · rw [if_neg here] at member
    exact unfailed row member same

theorem Settleable.execute (fenced : Fenced state) {owner : Nat} {left : List Token}
    (settleable : Settleable owner state view) (fewer : ∀ token ∈ left, token ∈ view)
    (means : statement.update (state.table service) state.now scan = some update)
    (closed : ∀ status attempts lastError nextRetryAt id version,
      statement = .markFailed status attempts lastError nextRetryAt id version →
        (⟨service,id,version⟩ : Token) ∉ left) :
    Settleable owner (state.execute pid service statement update) left := by
  intro token member
  obtain ⟨claimed,unfailed⟩ := settleable token (fewer token member)
  constructor
  · rw [execute_claims]
    exact List.mem_append_left _ claimed
  · refine unfailed_execute fenced claimed unfailed means ?_
    intro status attempts lastError nextRetryAt id version settles same
    exact closed _ _ _ _ _ _ settles (same ▸ member)

/-- The rows of a claim are pending, and each carries its own token. -/
theorem Settleable.claim {lockedBy : String} {limit : Nat}
    (means : (Statement.claim lockedBy limit).update (state.table service) state.now scan = some update) :
    Settleable pid (state.execute pid service (.claim lockedBy limit) update)
      (((state.table service).returning update).map (OutboxEvent.token service)) := by
  intro token member
  obtain ⟨row,returned,rfl⟩ := List.mem_map.mp member
  constructor
  · rw [execute_claims]
    exact List.mem_append_right _ (List.mem_map_of_mem returned)
  · intro other present same
    have one := Table.eq_of_key present (returned_mem returned) (congrArg Token.id same)
    obtain ⟨before,among,matched,written⟩ := Table.mem_returning.mp returned
    have writes := Statement.write_cases means among matched
    rw [← written] at writes
    subst one
    cases writes with
    | claim due =>
      simp only [OutboxEvent.due,Bool.and_eq_true,beq_iff_eq] at due
      exact fun failed => absurd (due.1.symm.trans failed) (by decide)

/-- What the program knows after its statement, whether its answer arrives or not. -/
theorem Settleable.observes (fenced : Fenced state) (settleable : Settleable pid state view)
    (means : statement.update (state.table service) state.now scan = some update)
    {outcome : Except Thrown (List statement.Row)}
    (possible : outcome = .ok (statement.returned ((state.table service).returning update)) ∨
      ∃ error, outcome = .error error) :
    ∃ next, settling.moves view (.query service statement) outcome next ∧
      Settleable pid (state.execute pid service statement update) next := by
  have still : (∀ status attempts lastError nextRetryAt id version,
      statement ≠ .markFailed status attempts lastError nextRetryAt id version) →
      Settleable pid (state.execute pid service statement update) view := fun other =>
    settleable.execute fenced (fun _ member => member) means
      (fun status attempts lastError nextRetryAt id version same => absurd same (other _ _ _ _ _ _))
  cases statement with
  | claim lockedBy limit =>
    rcases possible with rfl | ⟨error,rfl⟩
    · refine ⟨_,⟨rfl,State.claim_distinct⟩,?_⟩
      have claimed := @Settleable.claim state pid service update scan lockedBy limit means
      intro token member
      obtain ⟨row,returned,rfl⟩ := List.mem_map.mp member
      obtain ⟨stored,among,rfl⟩ := List.mem_map.mp returned
      exact claimed _ (List.mem_map_of_mem among)
    · exact ⟨view,rfl,still (fun _ _ _ _ _ _ => Statement.noConfusion)⟩
  | markFailed status attempts lastError nextRetryAt id version =>
    refine ⟨view.filter (fun token => token != ⟨service,id,version⟩),by cases outcome <;> rfl,?_⟩
    refine settleable.execute fenced (fun _ member => List.mem_of_mem_filter member) means ?_
    intro _ _ _ _ _ _ same left
    obtain ⟨_,_,_,_,rfl,rfl⟩ := Statement.markFailed.inj same
    exact bne_iff_ne.mp (List.mem_filter.mp left).2 rfl
  | markSent _ _ | reap _ | replayOne _ | replayFailed _ =>
    exact ⟨view,by cases outcome <;> rfl,still (fun _ _ _ _ _ _ => Statement.noConfusion)⟩

theorem Settleable.execute_other (fenced : Fenced state) (settleable : Settleable pid state view)
    (allowed : settling.allows view (.query service statement))
    (means : statement.update (state.table service) state.now scan = some update) {other : Nat} (apart : other ≠ pid)
    {theirs : List Token} (known : Settleable other state theirs) :
    Settleable other (state.execute pid service statement update) theirs := by
  refine known.execute fenced (fun _ member => member) means ?_
  intro status attempts lastError nextRetryAt id version same member
  subst same
  have mine := (settleable _ (allowed id version rfl)).1
  exact apart (fenced.one_claimant (known _ member).1 mine)

theorem Settleable.congr {after : State} (settleable : Settleable pid state view)
    (table : ∀ service, ∀ row ∈ after.table service, row.status = .failed → row ∈ state.table service)
    (claims : after.history.claims = state.history.claims) : Settleable pid after view := by
  intro token member
  obtain ⟨claimed,unfailed⟩ := settleable token member
  refine ⟨claims ▸ claimed,?_⟩
  intro row present same failed
  exact unfailed row (table _ row present failed) same failed

end execution

def outboxWorld {Start : Type} (launch : Start → Program returningRows Unit) :
    World State Thrown Request (Reply returningRows) Choice External Start where
  serve := State.serve
  fails request _ := request.fails
  crash state _ := state
  external := State.external
  start state _ task := some (launch task,state)

theorem relayWorld_outbox (settings : Settings) : relayWorld returningRows settings = outboxWorld (Task.program settings) := rfl

theorem settling_unmoved {request : Request} (other : ∀ service statement, request ≠ .query service statement)
    (view : List Token) (outcome : Except Thrown (Reply returningRows request)) :
    settling.moves view request outcome view := by
  cases request with
  | query service statement => exact absurd rfl (other service statement)
  | newDate | getChannel _ | inject _ | publish _ _ | waitForConfirms _ | fencedPublish _ | declare _ =>
    cases outcome <;> rfl

theorem settling_refused (view : List Token) (request : Request) (error : Thrown) :
    ∃ next, settling.moves view request (.error error) next ∧ ∀ token ∈ next, token ∈ view := by
  by_cases queries : ∃ service statement, request = .query service statement
  · obtain ⟨service,statement,rfl⟩ := queries
    cases statement with
    | markFailed _ _ _ _ id version =>
      exact ⟨_,rfl,fun token member => List.mem_of_mem_filter member⟩
    | claim _ _ | markSent _ _ | reap _ | replayOne _ | replayFailed _ => exact ⟨view,rfl,fun _ member => member⟩
  · exact ⟨view,settling_unmoved (fun service statement same => queries ⟨service,statement,same⟩) view _,
      fun _ member => member⟩

section launches
variable {Start : Type} {launch : Start → Program returningRows Unit}
  {guard : State → Happening Request Choice Thrown External Start → Prop} {named : Request → Prop}

theorem Settleable.serve {state after : State} {pid : Nat} {view : List Token} {request : Request} {choice : Choice}
    {reply : Except Thrown (Reply returningRows request)} (fenced : Fenced state)
    (settleable : Settleable pid state view) (allowed : settling.allows view request)
    (served : state.serve pid request choice = some (reply,after)) :
    (∀ outcome, outcome = reply ∨ (∃ error, outcome = .error error) →
      ∃ next, settling.moves view request outcome next ∧ Settleable pid after next) ∧
    ∀ other, other ≠ pid → ∀ theirs, Settleable other state theirs → Settleable other after theirs := by
  by_cases queries : ∃ service statement, request = .query service statement
  · obtain ⟨service,statement,rfl⟩ := queries
    obtain ⟨update,means,rfl,rfl⟩ := State.serve_query served
    exact ⟨fun outcome possible => settleable.observes fenced means possible,
      fun other apart theirs known => settleable.execute_other fenced allowed means apart known⟩
  · have other : ∀ service statement, request ≠ .query service statement :=
      fun service statement same => queries ⟨service,statement,same⟩
    obtain ⟨_,table,history⟩ := State.serve_apart other served
    have kept : ∀ owner theirs, Settleable owner state theirs → Settleable owner after theirs :=
      fun owner theirs known => known.congr (fun _ _ member _ => table ▸ member) (congrArg History.claims history)
    exact ⟨fun outcome _ => ⟨view,settling_unmoved other view outcome,kept pid view settleable⟩,
      fun owner _ theirs known => kept owner theirs known⟩

/-- Rows are inserted pending. -/
theorem Settleable.external {state after : State} {event : External} (happened : state.external event = some after)
    {pid : Nat} {view : List Token} (settleable : Settleable pid state view) : Settleable pid after view := by
  cases event with
  | elapse ms =>
    obtain rfl := Option.some.inj happened
    exact settleable.congr (fun _ _ member _ => member) rfl
  | insert service recorded nextRetryAt =>
    obtain ⟨fresh,rfl⟩ := State.external_insert happened
    refine settleable.congr ?_ rfl
    intro other row member failed
    rcases (State.mem_insert fresh).mp member with old | ⟨_,rfl⟩
    · exact old
    · cases failed
  | route index =>
    obtain ⟨_,_,_,rfl⟩ := State.settlePublish_eq happened
    exact settleable.congr (fun _ _ member _ => member) rfl
  | reject index =>
    obtain ⟨_,_,_,rfl⟩ := State.settlePublish_eq happened
    exact settleable.congr (fun _ _ member _ => member) rfl

/-- No program can settle a claim whose row has failed. -/
theorem Settleable.sound (launches : ∀ state task, guard state (.starts task) →
      (settling.only named).Follows (launch task) [] (fun _ _ => True)) :
    (outboxWorld launch).Sound (settling.only named) (fun _ _ => True) guard (fun _ => Fenced) Settleable where
  starts fresh state task program after fenced permitted started := by
    obtain ⟨rfl,rfl⟩ := Prod.mk.inj (Option.some.inj started)
    exact ⟨fenced,⟨[],(fun _ absent => (List.not_mem_nil absent).elim),launches _ task permitted⟩,fun _ _ _ known => known⟩
  serves fresh state pid view request answer choice reply after fenced _ known allowed _ chosen served := by
    obtain ⟨learned,others⟩ := known.serve fenced allowed.1 served
    refine ⟨fenced.serve served,?_,others⟩
    intro outcome possible
    exact learned outcome (possible.imp_right (fun ⟨error,_,same⟩ => ⟨error,same⟩))
  refuses fresh state pid view request error _ known _ _ := by
    obtain ⟨next,moved,fewer⟩ := settling_refused view request error
    exact ⟨next,moved,fun token member => known token (fewer token member)⟩
  crashes _ _ _ fenced _ := ⟨fenced,fun _ _ _ known => known⟩
  externals fresh state event after fenced _ happened :=
    ⟨fenced.external happened,fun _ _ known => known.external happened⟩

/-- A step leaves a failed row as it is, or performs a replay that selects it and resets it. -/
theorem failed_step (launches : ∀ state task, guard state (.starts task) →
      (settling.only named).Follows (launch task) [] (fun _ _ => True)) {now : Int} {table : Service → OutboxTable}
    {broker : Amqp.Topology} {pool after : RelayPool}
    (reached : (outboxWorld launch).Reach guard (.initial now table broker) pool)
    {action : World.Action Choice Thrown External Start} (taken : (outboxWorld launch).step pool action = some after)
    {service : Service} {row : OutboxEvent} (member : row ∈ pool.shared.table service) (failed : row.status = .failed) :
    row ∈ after.shared.table service ∨
    ∃ pid answer statement, action = .resume pid answer ∧ answer.choice? ≠ none ∧
      (outboxWorld launch).happening pool action = some (.performs pid (.query service statement) answer) ∧
      named (.query service statement) ∧ statement.Resets row ∧
      row.replayed pool.shared.now ∈ after.shared.table service := by
  cases action with
  | resume pid answer =>
    have first := Fenced.initial now table broker
    obtain ⟨request,reply,view,event,answered,known,allowed,among⟩ :=
      World.reach_performs (Settleable.sound launches) first reached taken
    rcases World.answer_cases answered with ⟨choice,served,chosen,performed,_⟩ | ⟨same,_⟩
    · rcases State.serve_cases performed with ⟨there,statement,update,rfl,means,executed⟩ | ⟨_,tables,_⟩
      · rw [executed,State.mem_execute,State.mem_execute]
        by_cases here : service = there
        · subst here
          rw [if_pos rfl,if_pos rfl]
          rcases known.failed_write allowed means member failed with kept | ⟨resets,written⟩
          · exact .inl ⟨row,member,kept.symm⟩
          · refine .inr ⟨pid,answer,statement,rfl,?_,event,among,resets,row,member,written.symm⟩
            rw [chosen]
            exact Option.some_ne_none choice
        · rw [if_neg here]
          exact .inl member
      · exact .inl (tables ▸ member)
    · exact .inl (same ▸ member)
  | crash pid =>
    obtain ⟨_,_,rfl⟩ := Option.map_eq_some_iff.mp taken
    exact .inl member
  | external event =>
    obtain ⟨state,happened,rfl⟩ := Option.map_eq_some_iff.mp taken
    exact .inl (external_mem happened member)
  | start task =>
    obtain rfl := Option.some.inj taken
    exact .inl member

end launches

theorem Task.program_named (settings : Settings) (task : Task) :
    (settling.only (fun _ => True)).Follows (task.program settings) [] (fun _ _ => True) :=
  (task.program_settling settings []).only (Async.Asks.any _)

/-- Whatever the relays, the reapers and the writers do, and whatever answers get lost, a failed row changes in no
column until an operator replays it, and the replay resets it. -/
theorem failed_rows_frozen (settings : Settings) (now : Int) (table : Service → OutboxTable) (broker : Amqp.Topology)
    {pool after : RelayPool} (reached : (relayWorld returningRows settings).Reach (fun _ _ => True)
      (.initial now table broker) pool)
    {action : RelayAction} (taken : (relayWorld returningRows settings).step pool action = some after)
    {service : Service} {row : OutboxEvent} (member : row ∈ pool.shared.table service) (failed : row.status = .failed) :
    row ∈ after.shared.table service ∨
    ∃ pid answer statement, action = .resume pid answer ∧ answer.choice? ≠ none ∧
      (relayWorld returningRows settings).happening pool action = some (.performs pid (.query service statement) answer) ∧
      statement.Resets row ∧ row.replayed pool.shared.now ∈ after.shared.table service := by
  rw [relayWorld_outbox] at reached taken ⊢
  rcases failed_step (fun _ task _ => task.program_named settings) reached taken member failed with
    kept | ⟨pid,answer,statement,same,chosen,event,_,resets,reset⟩
  · exact .inl kept
  · exact .inr ⟨pid,answer,statement,same,chosen,event,resets,reset⟩

/-- The last attempt of a row fails, a slower claim of it is still under way, and the row is claimed no more. -/
def lastAttempt : List RelayAction := [
  .external (.insert .gateway { sampleCommand with maxAttempts := 1 } 0),
  .start (.runRelayTick .gateway "slow" 25),
  .resume 0 (.served { scan := [1] }),
  .start (.runRelayTick .gateway "quick" 25),
  .resume 1 (.served { scan := [1] }),
  .resume 1 (.refused (.ofMessage "Connection closed")),
  .resume 1 (.served {}),
  .resume 1 (.served {}),
  .resume 1 (.served {}),
  .resume 0 (.refused (.ofMessage "Connection closed")),
  .resume 0 (.served {}),
  .resume 0 (.served {})]

set_option maxRecDepth 4000 in
/-- The failure that the slower program records matches nothing. -/
theorem last_attempt_frozen : ∃ pool after, sampleRun lastAttempt = some pool ∧
    (relayWorld returningRows sampleSettings).step pool (.resume 0 (.served {})) = some after ∧
    ∃ row ∈ pool.shared.table .gateway, row.status = .failed ∧ row ∈ after.shared.table .gateway := by
  let pool := (sampleRun lastAttempt).get (by decide)
  let after := ((relayWorld returningRows sampleSettings).step pool (.resume 0 (.served {}))).get (by decide +kernel)
  have ran : sampleRun lastAttempt = some pool := (Option.some_get _).symm
  have taken : (relayWorld returningRows sampleSettings).step pool (.resume 0 (.served {})) = some after :=
    (Option.some_get _).symm
  have reached : (relayWorld returningRows sampleSettings).Reach (fun _ _ => True) sampleState pool :=
    Machine.run_reaches ran (Machine.permitted_every (fun _ _ _ _ => trivial) _ _)
  have present : ∃ row ∈ (pool.shared.table .gateway).rows, row.status = .failed := by decide +kernel
  have still : ∀ row ∈ (after.shared.table .gateway).rows, row.status = .failed := by decide +kernel
  obtain ⟨row,member,failed⟩ := present
  refine ⟨pool,after,ran,taken,row,member,failed,?_⟩
  rcases failed_rows_frozen sampleSettings 0 _ _ reached taken member failed with kept | ⟨_,_,_,_,_,_,_,reset⟩
  · exact kept
  · cases still _ reset

end MessagingPlatform.Outbox
