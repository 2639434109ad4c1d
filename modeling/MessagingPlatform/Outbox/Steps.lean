import MessagingPlatform.Outbox.Settlement

/-! Steps of the relay system taken apart: what a served query does to the tables and the
history, what the other requests leave alone, and the proof rule for invariants of the system
under the settlement protocol. -/
namespace MessagingPlatform.Outbox
open Driver

structure SameOutbox (before after : State) : Prop where
  now : after.now = before.now
  table : after.table = before.table
  publishes : after.publishes = before.publishes
  history : after.history = before.history

theorem SameOutbox.refl (state : State) : SameOutbox state state := ⟨rfl,rfl,rfl,rfl⟩

def Request.Marks : Request → Prop
  | .query _ _ | .publish _ _ => True
  | _ => False

namespace State

variable {state after : State} {pid : Nat} {choice : Choice}

theorem serve_query {service : Service} {statement : Statement}
    {reply : Except Thrown (Reply returningRows (.query service statement))}
    (served : state.serve pid (.query service statement) choice = some (reply,after)) :
    ∃ update, statement.update (state.table service) state.now choice.scan = some update ∧
      reply = .ok (statement.returned ((state.table service).returning update)) ∧
      after = state.execute pid service statement update := by
  obtain ⟨update,means,result⟩ := Option.map_eq_some_iff.mp served
  obtain ⟨replied,rfl⟩ := Prod.mk.inj result
  exact ⟨update,means,replied.symm,rfl⟩

theorem serve_publish {channel : Nat} {publication : Publication}
    {reply : Except Thrown (Reply returningRows (.publish channel publication))}
    (served : state.serve pid (.publish channel publication) choice = some (reply,after)) :
    reply = .ok choice.accepted ∧
      after = { state with publishes := state.publishes ++ [⟨channel,publication,.inFlight⟩] } := by
  obtain ⟨replied,rfl⟩ := Prod.mk.inj (Option.some.inj served)
  exact ⟨replied.symm,rfl⟩

theorem serve_waitForConfirms {channel : Nat} {reply : Except Thrown (Reply returningRows (.waitForConfirms channel))}
    (served : state.serve pid (.waitForConfirms channel) choice = some (reply,after)) :
    state.confirmed channel ∧ after = state := by
  simp only [serve,Option.ite_none_right_eq_some,Option.some.injEq,Prod.mk.injEq] at served
  exact ⟨served.1,served.2.2.symm⟩

theorem serve_same {request : Request} {reply : Except Thrown (Reply returningRows request)}
    (unmarked : ¬ request.Marks) (served : state.serve pid request choice = some (reply,after)) :
    SameOutbox state after := by
  cases request with
  | query service statement => exact (unmarked trivial).elim
  | publish channel publication => exact (unmarked trivial).elim
  | getChannel service =>
    obtain ⟨_,rfl⟩ := Prod.mk.inj (Option.some.inj served)
    exact .refl _
  | inject restored =>
    obtain ⟨_,rfl⟩ := Prod.mk.inj (Option.some.inj served)
    exact .refl _
  | waitForConfirms channel =>
    obtain ⟨_,rfl⟩ := serve_waitForConfirms served
    exact .refl _
  | newDate =>
    obtain ⟨_,rfl⟩ := Prod.mk.inj (Option.some.inj served)
    exact .refl _
  | fencedPublish service =>
    obtain ⟨_,rfl⟩ := Prod.mk.inj (Option.some.inj served)
    exact ⟨rfl,rfl,rfl,rfl⟩
  | declare declaration =>
    obtain ⟨broker,_,result⟩ := Option.map_eq_some_iff.mp served
    obtain ⟨_,rfl⟩ := Prod.mk.inj result
    exact ⟨rfl,rfl,rfl,rfl⟩

/-- Only a query can change the tables and the history. -/
theorem serve_cases {request : Request} {reply : Except Thrown (Reply returningRows request)}
    (served : state.serve pid request choice = some (reply,after)) :
    (∃ service statement update, request = .query service statement ∧
      statement.update (state.table service) state.now choice.scan = some update ∧
      after = state.execute pid service statement update) ∨
    (after.now = state.now ∧ after.table = state.table ∧ after.history = state.history) := by
  by_cases marks : request.Marks
  · cases request with
    | query service statement =>
      obtain ⟨update,means,_,rfl⟩ := serve_query served
      exact .inl ⟨service,statement,update,rfl,means,rfl⟩
    | publish channel publication =>
      obtain ⟨_,rfl⟩ := serve_publish served
      exact .inr ⟨rfl,rfl,rfl⟩
    | getChannel _ | inject _ | waitForConfirms _ | newDate | fencedPublish _ | declare _ =>
      exact marks.elim
  · have same := serve_same marks served
    exact .inr ⟨same.now,same.table,same.history⟩

theorem serve_apart {request : Request} {reply : Except Thrown (Reply returningRows request)}
    (other : ∀ service statement, request ≠ .query service statement)
    (served : state.serve pid request choice = some (reply,after)) :
    after.now = state.now ∧ after.table = state.table ∧ after.history = state.history :=
  (serve_cases served).resolve_left (fun ⟨service,statement,_,same,_⟩ => other service statement same)

theorem mem_execute {service other : Service} {statement : Statement}
    {update : Update OutboxEvent OutboxEvent.id} {row : OutboxEvent} :
    row ∈ (state.execute pid service statement update).table other ↔
      if other = service then ∃ before ∈ state.table other, row = update.write before
      else row ∈ state.table other := by
  by_cases same : other = service
  · subst same
    simp [execute,Table.mem_apply]
  · simp [execute,same]

theorem keys_execute (state : State) (pid : Nat) (service other : Service) (statement : Statement)
    (update : Update OutboxEvent OutboxEvent.id) :
    ((state.execute pid service statement update).table other).keys = (state.table other).keys := by
  by_cases same : other = service
  · subst same
    simp [execute,Table.keys_apply]
  · simp [execute,same]

theorem claim_distinct {table : OutboxTable} {update : Update OutboxEvent OutboxEvent.id} :
    (List.map ClaimedRow.id ((table.returning update).map OutboxEvent.claimed)).Nodup := by
  rw [List.map_map]
  exact table.returning_keys_nodup update

theorem external_insert {service : Service} {recorded : Recorded} {nextRetryAt : Int}
    (happened : state.external (.insert service recorded nextRetryAt) = some after) :
    ∃ fresh : recorded.id ∉ (state.table service).keys, after = { state with
      table := Function.update state.table service
        ((state.table service).insert (recorded.row nextRetryAt) fresh)
      history.recorded := state.history.recorded ++ [(service,recorded)] } := by
  simp only [external] at happened
  split at happened
  next fresh => exact ⟨fresh,(Option.some.inj happened).symm⟩
  next => cases happened

theorem mem_insert {service other : Service} {recorded : Recorded} {nextRetryAt : Int}
    {row : OutboxEvent} (fresh : recorded.id ∉ (state.table service).keys) :
    row ∈ Function.update state.table service
        ((state.table service).insert (recorded.row nextRetryAt) fresh) other ↔
      row ∈ state.table other ∨ other = service ∧ row = recorded.row nextRetryAt := by
  by_cases same : other = service
  · subst same
    rw [Function.update_self]
    simpa using Table.mem_insert fresh
  · simp [same]

theorem settlePublish_eq {index : Nat} {fate : Published → Fate}
    (settled : state.settlePublish index fate = some after) :
    ∃ published, state.publishes[index]? = some published ∧ published.fate = .inFlight ∧
      after = { state with
        publishes := state.publishes.set index { published with fate := fate published } } := by
  unfold settlePublish at settled
  split at settled
  next published found =>
    split at settled
    next flying => exact ⟨published,found,flying,(Option.some.inj settled).symm⟩
    next => cases settled
  next => cases settled

theorem serve_honest {request : Request} {reply outcome : Except Thrown (Reply returningRows request)}
    (served : state.serve pid request choice = some (reply,after))
    (kept : outcome = reply ∨ ∃ error : Thrown, request.fails ∧ outcome = .error error) :
    honest request outcome := by
  rcases kept with same | ⟨error,fails,same⟩
  · subst same
    cases request with
    | query service statement =>
      obtain ⟨update,_,replied,_⟩ := serve_query served
      subst replied
      cases statement with
      | claim lockedBy limit => exact claim_distinct
      | markSent id version => trivial
      | markFailed status attempts lastError nextRetryAt id version => trivial
      | reap ttlMs => trivial
      | replayOne id => trivial
      | replayFailed eventType => trivial
    | publish channel publication =>
      obtain ⟨replied,_⟩ := serve_publish served
      subst replied
      trivial
    | getChannel service =>
      obtain ⟨replied,_⟩ := Prod.mk.inj (Option.some.inj served)
      subst replied
      trivial
    | inject restored =>
      obtain ⟨replied,_⟩ := Prod.mk.inj (Option.some.inj served)
      subst replied
      trivial
    | waitForConfirms channel => cases outcome <;> trivial
    | newDate =>
      obtain ⟨replied,_⟩ := Prod.mk.inj (Option.some.inj served)
      subst replied
      trivial
    | fencedPublish service =>
      obtain ⟨replied,_⟩ := Prod.mk.inj (Option.some.inj served)
      subst replied
      trivial
    | declare declaration => cases outcome <;> trivial
  · subst same
    cases request <;> exact fails

end State

/-- The proof rule of the relay system. Views move as programs observe answers, so what is left
to show is that the invariant and what the views say stay true. -/
theorem relay_sound {settings : Settings} {guard : State → RelayEvent → Prop}
    {inv : State → Prop} {knows : Nat → State → View → Prop}
    (unaware : ∀ state pid, inv state → knows pid state View.start)
    (serves : ∀ state pid view request answer choice reply after, inv state → knows pid state view →
      (settlement settings).allows view request → guard state (.performs pid request answer) →
      answer.choice? = some choice → state.serve pid request choice = some (reply,after) →
      inv after ∧
      (∀ outcome, outcome = reply ∨ (∃ error, outcome = .error error) →
        knows pid after (view.observe request outcome)) ∧
      ∀ other, other ≠ pid → ∀ view, knows other state view → knows other after view)
    (refuses : ∀ state pid view request error, knows pid state view →
      knows pid state (view.observe request (.error error)))
    (externals : ∀ state event after, inv state → guard state (.external event) →
      state.external event = some after →
      inv after ∧ ∀ pid view, knows pid state view → knows pid after view) :
    (relayWorld returningRows settings).Sound (settlement settings) settled guard (fun _ => inv) knows where
  starts fresh state task program after holds _ started := by
    obtain ⟨rfl,rfl⟩ := Prod.mk.inj (Option.some.inj started)
    exact ⟨holds,⟨View.start,unaware _ _ holds,task.program_follows settings⟩,fun _ _ _ known => known⟩
  serves fresh state pid view request answer choice reply after holds _ known allowed permitted chosen served := by
    obtain ⟨kept,learned,others⟩ := serves _ _ _ _ _ _ _ _ holds known allowed permitted chosen served
    refine ⟨kept,?_,others⟩
    intro outcome possible
    refine ⟨view.observe request outcome,⟨rfl,State.serve_honest served possible⟩,learned outcome ?_⟩
    exact possible.imp_right (fun ⟨error,_,same⟩ => ⟨error,same⟩)
  refuses fresh state pid view request error _ known _ fails := by
    refine ⟨_,⟨rfl,?_⟩,refuses _ _ _ _ error known⟩
    cases request <;> exact fails
  crashes _ _ _ holds _ := ⟨holds,fun _ _ _ known => known⟩
  externals fresh state event after holds permitted happened :=
    externals state event after holds permitted happened

end MessagingPlatform.Outbox
