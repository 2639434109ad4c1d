import MessagingPlatform.Outbox.System

/-! What every program of the relay system respects, whatever the answers are: a row is marked
sent at most once per claim and only after its own publish was confirmed, and a settlement
that matched no row is reported before anything else happens. -/
namespace MessagingPlatform.Outbox
open Driver

/-- What a program knows: the rows it claimed and has not tried to mark sent, its last publish,
the publish that was last confirmed, and the lost race it still has to report. -/
structure View where
  fresh : List (Service × ClaimedRow)
  written : Option (Nat × Publication)
  confirmed : Option Publication
  owes : Option Service

def ClaimedRow.token (service : Service) (row : ClaimedRow) : Token :=
  ⟨service,row.id,row.lockVersion⟩

def Carries (publication : Publication) (eventType : String) (payload : Json) : Prop :=
  publication.exchange = (resolveOutboxRoute eventType).exchange ∧
    publication.routingKey = (resolveOutboxRoute eventType).routingKey ∧
    publication.body = Body.stringify payload

namespace View

def start : View := ⟨[],none,none,none⟩

def lostRace (service : Service) : Except Thrown (List Nat) → Option Service
  | .ok [] => some service
  | _ => none

def observe (view : View) : (request : Request) → Except Thrown (Reply returningRows request) → View
  | .query service (.claim _ _), .ok rows =>
      { view with fresh := List.map (fun row : ClaimedRow => (service,row)) rows }
  | .query service (.markSent id version), outcome =>
      { view with
        fresh := view.fresh.filter (fun entry => entry.2.token entry.1 != ⟨service,id,version⟩)
        owes := lostRace service outcome }
  | .query service (.markFailed _ _ _ _ _ _), outcome => { view with owes := lostRace service outcome }
  | .publish channel publication, .ok _ =>
      { view with written := some (channel,publication), confirmed := none }
  | .publish _ _, .error _ => { view with written := none, confirmed := none }
  | .waitForConfirms channel, .ok _ =>
      { view with confirmed := (view.written.filter (fun written => written.1 == channel)).map Prod.snd }
  | .fencedPublish _, _ => { view with owes := none }
  | _, _ => view

end View

/-- A claim returns distinct rows; only some requests reject. -/
def honest : (request : Request) → Except Thrown (Reply returningRows request) → Prop
  | request, .error _ => request.fails
  | .query _ (.claim _ _), .ok rows => (List.map ClaimedRow.id rows).Nodup
  | _, .ok _ => True

def settlement (settings : Settings) : Protocol View Thrown Request (Reply returningRows) where
  allows view
    | .query service (.markSent id version) => view.owes = none ∧ ∃ row publication,
        (service,row) ∈ view.fresh ∧ row.token service = ⟨service,id,version⟩ ∧
        view.confirmed = some publication ∧ Carries publication row.eventType row.payload
    | .query _ (.markFailed status _ _ _ _ _) => view.owes = none ∧ status ≠ .sent
    | .query service (.reap ttlMs) => view.owes = none ∧ ttlMs = settings.lockTtlMs service
    | .fencedPublish service => view.owes = some service
    | _ => view.owes = none
  moves view request outcome after := after = view.observe request outcome ∧ honest request outcome

variable {settings : Settings}

def settled (view : View) (_ : Except Thrown Unit) : Prop := view.owes = none

/-- A program that owes a report makes it before anything else. -/
theorem owing_reports {program : Program returningRows Unit} {view : View} {service : Service}
    (follows : (settlement settings).Follows program view settled) (owes : view.owes = some service) :
    ∃ next, program = .await (.fencedPublish service) next := by
  cases program with
  | resolve value => exact absurd (follows.symm.trans owes) (by simp)
  | reject error => exact absurd (follows.symm.trans owes) (by simp)
  | await request next =>
    have allowed := follows.1
    cases request with
    | fencedPublish other =>
      obtain rfl := Option.some.inj (owes.symm.trans allowed)
      exact ⟨next,rfl⟩
    | query other statement =>
      cases statement with
      | markSent _ _ | markFailed _ _ _ _ _ _ | reap _ =>
        exact absurd (allowed.1.symm.trans owes) (by simp)
      | claim _ _ | replayOne _ | replayFailed _ =>
        exact absurd (allowed.symm.trans owes) (by simp)
    | getChannel _ | inject _ | publish _ _ | waitForConfirms _ | newDate | declare _ =>
      exact absurd (allowed.symm.trans owes) (by simp)

theorem follows_request {request : Request} {view : View}
    {post : View → Except Thrown (Reply returningRows request) → Prop}
    (allowed : (settlement settings).allows view request)
    (answered : ∀ outcome, honest request outcome → post (view.observe request outcome) outcome) :
    (settlement settings).Follows (Outbox.request request) view post := by
  refine Protocol.Follows.call allowed ?_
  intro outcome after moved
  obtain ⟨rfl,truth⟩ := moved
  exact answered outcome truth

theorem follows_query {service : Service} {statement : Statement} {view : View}
    {post : View → Except Thrown (List statement.Row) → Prop}
    (allowed : (settlement settings).allows view (.query service statement))
    (answered : ∀ outcome, honest (.query service statement) outcome →
      post (view.observe (.query service statement) outcome) outcome) :
    (settlement settings).Follows (Outbox.query service statement) view post :=
  follows_request allowed answered

/-- Only the claim and the settlements change what a program knows by a query. -/
def Statement.Quiet : Statement → Prop
  | .claim _ _ | .markSent _ _ | .markFailed _ _ _ _ _ _ => False
  | .reap _ | .replayOne _ | .replayFailed _ => True

theorem follows_quiet {service : Service} {statement : Statement} {view : View}
    {post : View → Except Thrown (List statement.Row) → Prop}
    (allowed : (settlement settings).allows view (.query service statement)) (quiet : statement.Quiet)
    (answered : ∀ outcome, post view outcome) :
    (settlement settings).Follows (Outbox.query service statement) view post := by
  cases statement with
  | claim _ _ | markSent _ _ | markFailed _ _ _ _ _ _ => exact quiet.elim
  | reap _ | replayOne _ | replayFailed _ =>
    exact follows_query allowed (fun outcome _ => by cases outcome <;> exact answered _)

namespace RelayService

variable (settings) (relay : RelayService)

theorem publication_carries (row : ClaimedRow) (carrier : TraceCarrier) :
    Carries (relay.publication row carrier) row.eventType row.payload := ⟨rfl,rfl,rfl⟩

theorem newDate_follows {view : View} (idle : view.owes = none) :
    (settlement settings).Follows (Outbox.request .newDate) view
      (fun after outcome => view = after ∧ ∃ now, outcome = .ok now) := by
  refine follows_request idle ?_
  intro outcome truth
  cases outcome with
  | error error => simp [honest,Request.fails] at truth
  | ok now => exact ⟨rfl,now,rfl⟩

theorem newStatusAndRetryAt_follows (outcome : FailureOutcome) {view : View} (idle : view.owes = none) :
    (settlement settings).Follows (newStatusAndRetryAt outcome) view
      (fun after outcome => view = after ∧ ∃ next, outcome = .ok next ∧ next.1 ≠ .sent) := by
  cases outcome with
  | retry nextRetryAt attempts => exact ⟨rfl,_,rfl,by simp⟩
  | deadLetter attempts =>
    refine (newDate_follows settings idle).bind ?_ ?_
    · intro after instant learned
      exact ⟨learned.1,_,rfl,by simp⟩
    · intro after error learned
      obtain ⟨_,_,impossible⟩ := learned
      cases impossible

/-- The attempt is recorded under the claim of the row, or the lost race is reported. -/
theorem markFailedAttempt_follows (engine : Engine) (row : ClaimedRow) (err : Thrown) {view : View}
    (idle : view.owes = none) :
    (settlement settings).Follows (relay.markFailedAttempt engine row err) view
      (fun after _ => after.owes = none ∧ after.fresh = view.fresh) := by
  unfold markFailedAttempt
  simp only [Async.bind_eq]
  refine (newDate_follows settings idle).bind ?_ ?_
  · intro after now learned
    obtain ⟨same,_⟩ := learned
    subst same
    refine (newStatusAndRetryAt_follows settings _ idle).bind ?_ ?_
    · intro after next learned
      obtain ⟨same,_,equal,unsent⟩ := learned
      subst same
      obtain rfl := Except.ok.inj equal
      have written : (settlement settings).Follows (query relay.service (.markFailed next.1
          (computeFailureOutcome engine row.attempts row.maxAttempts now).newAttempts err.message
          next.2 row.id row.lockVersion)) view (fun after outcome => after.fresh = view.fresh ∧
            after.owes = View.lostRace relay.service outcome) :=
        follows_query ⟨idle,unsent⟩ (fun outcome _ => ⟨rfl,rfl⟩)
      refine written.bind ?_ ?_
      · intro after result learned
        obtain ⟨fresh,owes⟩ := learned
        cases result with
        | nil =>
          simp only [List.length_nil,gt_iff_lt,Nat.lt_irrefl,if_false]
          exact follows_request owes (fun outcome _ => ⟨rfl,fresh⟩)
        | cons id rest =>
          simp only [List.length_cons,gt_iff_lt,Nat.zero_lt_succ,if_true]
          exact ⟨owes,fresh⟩
      · intro after error learned
        exact ⟨learned.2,learned.1⟩
    · intro after error learned
      obtain ⟨_,_,impossible,_⟩ := learned
      cases impossible
  · intro after error learned
    obtain ⟨_,_,impossible⟩ := learned
    cases impossible

def Tried (before : View) (row : ClaimedRow) (after : View) : Prop :=
  after.owes = none ∧ ∀ entry ∈ before.fresh,
    entry.2.token entry.1 ≠ row.token relay.service → entry ∈ after.fresh

/-- Only a row whose publication has been confirmed is marked sent. -/
theorem markSent_follows (row : ClaimedRow) {view : View} (idle : view.owes = none)
    (mine : (relay.service,row) ∈ view.fresh) {publication : Publication}
    (confirmed : view.confirmed = some publication)
    (carries : Carries publication row.eventType row.payload) :
    (settlement settings).Follows (relay.markSent row.id row.lockVersion) view (fun after outcome =>
      (∀ entry ∈ view.fresh, entry.2.token entry.1 ≠ row.token relay.service → entry ∈ after.fresh) ∧
      match outcome with
      | .ok true | .error _ => after.owes = none
      | .ok false => after.owes = some relay.service) := by
  unfold markSent
  simp only [Async.bind_eq]
  have allowed : (settlement settings).allows view (.query relay.service (.markSent row.id row.lockVersion)) :=
    ⟨idle,row,publication,mine,rfl,confirmed,carries⟩
  have kept : ∀ entry ∈ view.fresh, entry.2.token entry.1 ≠ row.token relay.service →
      entry ∈ view.fresh.filter (fun entry => entry.2.token entry.1 != ⟨relay.service,row.id,row.lockVersion⟩) := by
    intro entry member other
    exact List.mem_filter.mpr ⟨member,bne_iff_ne.mpr other⟩
  have asked : (settlement settings).Follows (query relay.service (.markSent row.id row.lockVersion)) view
      (fun after outcome => (∀ entry ∈ view.fresh,
        entry.2.token entry.1 ≠ row.token relay.service → entry ∈ after.fresh) ∧
        after.owes = View.lostRace relay.service outcome) :=
    follows_query allowed (fun outcome _ => ⟨kept,rfl⟩)
  refine asked.bind ?_ ?_
  · intro after result learned
    cases result with
    | nil => exact learned
    | cons id rest => exact learned
  · intro after error learned
    exact learned

/-- A row is tried once: it is marked sent after its confirmation, or its failure is recorded. -/
theorem publishOne_follows (engine : Engine) (row : ClaimedRow) {view : View}
    (idle : view.owes = none) (mine : (relay.service,row) ∈ view.fresh) :
    (settlement settings).Follows (relay.publishOne engine row) view (fun after _ => relay.Tried view row after) := by
  have handled : ∀ (after : View) (err : Thrown), relay.Tried view row after →
      (settlement settings).Follows (relay.markFailedAttempt engine row err) after
        (fun last _ => relay.Tried view row last) := by
    intro after err tried
    refine (relay.markFailedAttempt_follows settings engine row err tried.1).mono ?_
    intro last _ learned
    exact ⟨learned.1,fun entry member other => learned.2 ▸ tried.2 entry member other⟩
  have untouched : relay.Tried view row view := ⟨idle,fun _ member _ => member⟩
  refine Protocol.Follows.tryCatch (M := fun after _ => relay.Tried view row after) ?_
    (fun _ _ tried => tried) handled
  simp only [Async.bind_eq]
  have channelAsked : (settlement settings).Follows (request (.getChannel relay.service)) view
      (fun after _ => view = after) :=
    follows_request idle (fun outcome _ => by cases outcome <;> rfl)
  refine channelAsked.bind ?_ (fun _ _ same => same ▸ untouched)
  intro after channel same
  subst same
  have carrierAsked : (settlement settings).Follows (request (.inject row.traceContext)) view
      (fun after _ => view = after) :=
    follows_request idle (fun outcome _ => by cases outcome <;> rfl)
  refine carrierAsked.bind ?_ (fun _ _ same => same ▸ untouched)
  intro after carrier same
  subst same
  have written : (settlement settings).Follows (request (.publish channel (relay.publication row carrier))) view
      (fun after outcome => after.owes = none ∧ after.fresh = view.fresh ∧
        ∀ accepted, outcome = .ok accepted → after.written = some (channel,relay.publication row carrier)) := by
    refine follows_request idle ?_
    intro outcome _
    cases outcome with
    | ok accepted => exact ⟨idle,rfl,fun _ _ => rfl⟩
    | error error => exact ⟨idle,rfl,fun _ impossible => by cases impossible⟩
  refine written.bind ?_ (fun _ _ learned => ⟨learned.1,fun _ member _ => learned.2.1 ▸ member⟩)
  intro after accepted learned
  obtain ⟨owes,fresh,out⟩ := learned
  have tried : relay.Tried view row after := ⟨owes,fun _ member _ => fresh ▸ member⟩
  cases accepted with
  | false => exact tried
  | true =>
    have confirms : (settlement settings).Follows (request (.waitForConfirms channel)) after
        (fun last outcome => last.owes = none ∧ last.fresh = view.fresh ∧
          ∀ reply, outcome = .ok reply → last.confirmed = some (relay.publication row carrier)) := by
      refine follows_request owes ?_
      intro outcome _
      cases outcome with
      | ok reply => exact ⟨owes,fresh,fun _ _ => by simp [View.observe,out true rfl]⟩
      | error error => exact ⟨owes,fresh,fun _ impossible => by cases impossible⟩
    refine confirms.bind ?_ (fun _ _ learned => ⟨learned.1,fun _ member _ => learned.2.1 ▸ member⟩)
    intro last reply learned
    obtain ⟨owesLast,freshLast,confirmed⟩ := learned
    have marked := relay.markSent_follows settings row owesLast (freshLast ▸ mine) (confirmed reply rfl)
      (relay.publication_carries row carrier)
    refine marked.bind ?_ ?_
    · intro final stillOwned learned
      obtain ⟨kept,report⟩ := learned
      rw [freshLast] at kept
      cases stillOwned with
      | true => exact ⟨report,kept⟩
      | false => exact follows_request report (fun outcome _ => ⟨rfl,kept⟩)
    · intro final error learned
      exact ⟨learned.2,freshLast ▸ learned.1⟩

/-- Publishing one row leaves the rest of the batch to be tried, because its rows are distinct. -/
theorem published_follows (engine : Engine) (rows : List ClaimedRow) {view : View}
    (idle : view.owes = none) (distinct : (rows.map ClaimedRow.id).Nodup)
    (mine : ∀ row ∈ rows, (relay.service,row) ∈ view.fresh) :
    (settlement settings).Follows (rows.forM (relay.publishOne engine)) view settled := by
  induction rows generalizing view with
  | nil => exact idle
  | cons row rest ih =>
    obtain ⟨new,distinct⟩ := List.nodup_cons.mp distinct
    have first := relay.publishOne_follows settings engine row idle (mine row List.mem_cons_self)
    refine first.bind ?_ (fun _ _ tried => tried.1)
    intro after _ tried
    refine ih tried.1 distinct ?_
    intro other member
    refine tried.2 _ (mine other (List.mem_cons_of_mem _ member)) ?_
    intro same
    have same_id : other.id = row.id := congrArg Token.id same
    exact new (same_id ▸ List.mem_map_of_mem member)

def Batch (after : View) (outcome : Except Thrown (Option (List ClaimedRow))) : Prop :=
  after.owes = none ∧ ∀ rows, outcome = .ok (some rows) →
    (rows.map ClaimedRow.id).Nodup ∧ ∀ row ∈ rows, (relay.service,row) ∈ after.fresh

/-- A tick tries the rows of its own claim and no others. -/
theorem runRelayTick_follows (engine : Engine) (instanceId : String) (batchSize : Nat) {view : View}
    (idle : view.owes = none) :
    (settlement settings).Follows (relay.runRelayTick (relay.publishOne engine) instanceId batchSize) view settled := by
  unfold runRelayTick relayTick
  simp only [Async.bind_eq]
  have claimed : (settlement settings).Follows (relay.claimBatch instanceId batchSize) view
      (fun after outcome => after.owes = none ∧ ∀ rows, outcome = .ok rows →
        (List.map ClaimedRow.id rows).Nodup ∧ ∀ row ∈ rows, (relay.service,row) ∈ after.fresh) := by
    refine follows_query idle ?_
    intro outcome truth
    cases outcome with
    | ok rows =>
      refine ⟨idle,?_⟩
      intro same equal
      obtain rfl := Except.ok.inj equal
      exact ⟨truth,fun row member => List.mem_map_of_mem member⟩
    | error error => exact ⟨idle,fun _ impossible => by cases impossible⟩
  have body : (settlement settings).Follows
      ((relay.claimBatch instanceId batchSize).bind (fun rows => .resolve (some rows))) view
      relay.Batch := by
    refine claimed.bind ?_ ?_
    · intro after rows learned
      refine ⟨learned.1,?_⟩
      intro same equal
      obtain rfl := Option.some.inj (Except.ok.inj equal)
      exact learned.2 rows rfl
    · intro after error learned
      exact ⟨learned.1,fun _ impossible => by cases impossible⟩
  refine Protocol.Follows.bind (M := relay.Batch) (body.tryCatch (fun _ _ learned => learned) ?_) ?_
    (fun _ _ learned => learned.1)
  · intro after error learned
    exact ⟨learned.1,fun _ impossible => by cases impossible⟩
  · intro after claim learned
    cases claim with
    | none => exact learned.1
    | some rows =>
      obtain ⟨distinct,mine⟩ := learned.2 rows rfl
      by_cases nothing : rows.length = 0
      · simp only [nothing,if_true]
        exact learned.1
      · simp only [nothing,if_false]
        exact relay.published_follows settings engine rows learned.1 distinct mine

theorem reapStaleLocks_follows {view : View} (idle : view.owes = none) :
    (settlement settings).Follows (relay.reapStaleLocks (settings.lockTtlMs relay.service)) view
      settled := by
  have reaped : (settlement settings).Follows
      (query relay.service (.reap (settings.lockTtlMs relay.service))) view
      (fun after _ => view = after) := follows_quiet ⟨idle,rfl⟩ trivial (fun _ => rfl)
  refine Protocol.Follows.tryCatch (M := settled) (reaped.bind ?_ ?_) (fun _ _ learned => learned)
    (fun _ _ learned => learned)
  · intro after rows same
    exact same ▸ idle
  · intro after error same
    exact same ▸ idle

end RelayService

theorem assertTopology_follows {view : View} (idle : view.owes = none) :
    (settlement settings).Follows TopologyService.assertTopology view settled := by
  unfold TopologyService.assertTopology
  refine Protocol.Follows.mono (Protocol.Follows.forM (I := fun _ view => view.owes = none)
    (F := fun view _ => view.owes = none) idle ?_) ?_
  · intro declaration rest view idle
    exact follows_request idle (fun outcome _ => by cases outcome <;> exact idle)
  · intro after outcome learned
    cases outcome <;> exact learned

theorem replay_follows {service : Service} {statement : Statement} {Value : Type} {view : View}
    {report : List statement.Row → Program returningRows Value} (idle : view.owes = none)
    (allowed : (settlement settings).allows view (.query service statement)) (quiet : statement.Quiet)
    (reported : ∀ rows, (settlement settings).Follows (report rows) view (fun after _ => after.owes = none)) :
    (settlement settings).Follows (((query service statement).bind report).bind (fun _ => .resolve ())) view
      settled := by
  have asked : (settlement settings).Follows (query service statement) view (fun after _ => view = after) :=
    follows_quiet allowed quiet (fun _ => rfl)
  have whole : (settlement settings).Follows ((query service statement).bind report) view
      (fun after _ => after.owes = none) :=
    asked.bind (fun _ rows same => same ▸ reported rows) (fun _ _ same => same ▸ idle)
  exact whole.bind (fun _ _ learned => learned) (fun _ _ learned => learned)

/-- Every program of the deployment keeps to its own claims. -/
theorem Task.program_follows (settings : Settings) (task : Task) :
    (settlement settings).Follows (task.program settings) View.start settled := by
  have idle : View.start.owes = none := rfl
  cases task with
  | runRelayTick service instanceId batchSize =>
    exact service.relay.runRelayTick_follows settings settings.engine instanceId batchSize idle
  | reapStaleLocks service =>
    have reaped := service.relay.reapStaleLocks_follows settings idle
    rw [Service.relay_service] at reaped
    exact reaped
  | replayById service id =>
    cases service with
    | messaging =>
      refine replay_follows idle idle trivial ?_
      intro rows
      by_cases none : rows.length = 0
      · simp only [none,if_true]
        exact idle
      · simp only [none,if_false]
        exact idle
    | gateway => exact replay_follows idle idle trivial (fun _ => idle)
  | replayAllFailed service eventType =>
    cases service with
    | messaging => exact replay_follows idle idle trivial (fun _ => idle)
    | gateway => exact replay_follows idle idle trivial (fun _ => idle)
  | assertTopology => exact assertTopology_follows idle

end MessagingPlatform.Outbox
