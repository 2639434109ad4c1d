import MessagingPlatform.Outbox.Steps

/-! A row is sent only after the broker confirmed a publish of its payload to its route. The
invariant ties the column `status` to the publishes so far; rows keep their inserted columns. -/
namespace MessagingPlatform.Outbox
open Driver

def State.HasConfirmed (state : State) (eventType : String) (payload : Json) : Prop :=
  ∃ published ∈ state.publishes, published.acked ∧ Carries published.publication eventType payload

structure Keeps (before after : State) : Prop where
  publishes : ∀ published ∈ before.publishes, ∃ kept ∈ after.publishes,
    kept.channel = published.channel ∧ kept.publication = published.publication ∧
      (published.acked → kept.acked)
  rows : ∀ service, ∀ row ∈ before.table service, ∃ kept ∈ after.table service,
    kept.recorded = row.recorded

theorem SameOutbox.keeps {before after : State} (same : SameOutbox before after) :
    Keeps before after where
  publishes published member := ⟨published,same.publishes ▸ member,rfl,rfl,id⟩
  rows _ row member := ⟨row,same.table ▸ member,rfl⟩

theorem State.HasConfirmed.keeps {before after : State} (keeps : Keeps before after)
    {eventType : String} {payload : Json} (confirmed : before.HasConfirmed eventType payload) :
    after.HasConfirmed eventType payload := by
  obtain ⟨published,member,acked,carries⟩ := confirmed
  obtain ⟨kept,present,_,same,still⟩ := keeps.publishes published member
  exact ⟨kept,present,still acked,same ▸ carries⟩

theorem write_recorded {statement : Statement} {table : OutboxTable} {now : Int} {scan : List Nat}
    {update : Update OutboxEvent OutboxEvent.id} {row : OutboxEvent}
    (means : statement.update table now scan = some update) (member : row ∈ table) :
    (update.write row).recorded = row.recorded := by
  by_cases matched : update.cond row
  · rw [Update.write_of matched]
    have writes := Statement.write_cases means member matched
    generalize update.set row = after at writes
    cases writes <;> rfl
  · rw [Update.write_of_not matched]

theorem write_sent {statement : Statement} {table : OutboxTable} {now : Int} {scan : List Nat}
    {update : Update OutboxEvent OutboxEvent.id} {row : OutboxEvent}
    (means : statement.update table now scan = some update) (member : row ∈ table)
    (sent : (update.write row).status = .sent)
    (failing : ∀ status attempts lastError nextRetryAt id version,
      statement = .markFailed status attempts lastError nextRetryAt id version → status ≠ .sent) :
    row.status = .sent ∨ statement = .markSent row.id row.lockVersion := by
  by_cases matched : update.cond row
  · rw [Update.write_of matched] at sent
    have writes := Statement.write_cases means member matched
    generalize update.set row = after at writes sent
    cases writes with
    | claim due => exact .inl sent
    | markSent => exact .inr rfl
    | markFailed => exact absurd sent (failing _ _ _ _ _ _ rfl)
    | reap pending locked stale => exact .inl sent
    | replayOne failed => cases sent
    | replayFailed failed selected => cases sent
  · rw [Update.write_of_not matched] at sent
    exact .inl sent

theorem Keeps.execute {state : State} {pid : Nat} {service : Service} {statement : Statement}
    {scan : List Nat} {update : Update OutboxEvent OutboxEvent.id}
    (means : statement.update (state.table service) state.now scan = some update) :
    Keeps state (state.execute pid service statement update) where
  publishes published member := ⟨published,member,rfl,rfl,id⟩
  rows other row member := by
    by_cases here : other = service
    · subst here
      refine ⟨update.write row,?_,write_recorded means member⟩
      rw [State.mem_execute,if_pos rfl]
      exact ⟨row,member,rfl⟩
    · refine ⟨row,?_,rfl⟩
      rw [State.mem_execute,if_neg here]
      exact member

theorem Keeps.serve {state after : State} {pid : Nat} {request : Request} {choice : Choice}
    {reply : Except Thrown (Reply returningRows request)}
    (served : state.serve pid request choice = some (reply,after)) : Keeps state after := by
  by_cases marks : request.Marks
  · cases request with
    | query service statement =>
      obtain ⟨update,means,_,rfl⟩ := State.serve_query served
      exact .execute means
    | publish channel publication =>
      obtain ⟨_,rfl⟩ := State.serve_publish served
      exact ⟨fun published member => ⟨published,List.mem_append_left _ member,rfl,rfl,id⟩,
        fun _ row member => ⟨row,member,rfl⟩⟩
    | getChannel _ | inject _ | waitForConfirms _ | newDate | fencedPublish _ | declare _ =>
      exact marks.elim
  · exact (State.serve_same marks served).keeps

theorem Keeps.settlePublish {state after : State} {index : Nat} {fate : Published → Fate}
    (settled : state.settlePublish index fate = some after) : Keeps state after := by
  obtain ⟨published,found,flying,rfl⟩ := State.settlePublish_eq settled
  obtain ⟨bound,rfl⟩ := List.getElem?_eq_some_iff.mp found
  refine ⟨?_,fun _ row member => ⟨row,member,rfl⟩⟩
  intro other member
  obtain ⟨position,inside,rfl⟩ := List.mem_iff_getElem.mp member
  have within : position < (state.publishes.set index
      { state.publishes[index] with fate := fate state.publishes[index] }).length := by
    rw [List.length_set]; exact inside
  refine ⟨_,List.getElem_mem within,?_⟩
  rw [List.getElem_set]
  by_cases same : index = position
  · subst same
    rw [if_pos rfl]
    refine ⟨rfl,rfl,?_⟩
    intro acked
    simp [Published.acked,flying] at acked
  · rw [if_neg same]
    exact ⟨rfl,rfl,id⟩

theorem Keeps.external {state after : State} {event : External}
    (happened : state.external event = some after) : Keeps state after := by
  cases event with
  | elapse ms =>
    obtain rfl := Option.some.inj happened
    exact ⟨fun published member => ⟨published,member,rfl,rfl,id⟩,fun _ row member => ⟨row,member,rfl⟩⟩
  | insert service recorded nextRetryAt =>
    obtain ⟨fresh,rfl⟩ := State.external_insert happened
    exact ⟨fun published member => ⟨published,member,rfl,rfl,id⟩,
      fun _ row member => ⟨row,(State.mem_insert fresh).mpr (.inl member),rfl⟩⟩
  | route index => exact .settlePublish happened
  | reject index => exact .settlePublish happened

/-- What a view says is so: claimed rows carry the columns of the table, the last write is among
the publishes, and a confirmed publish was acked. -/
structure Knows (state : State) (view : View) : Prop where
  fresh : ∀ entry ∈ view.fresh, ∃ row ∈ state.table entry.1, row.id = entry.2.id ∧
    row.eventType = entry.2.eventType ∧ row.payload = entry.2.payload
  written : ∀ channel publication, view.written = some (channel,publication) →
    ∃ published ∈ state.publishes, published.channel = channel ∧ published.publication = publication
  confirmed : ∀ publication, view.confirmed = some publication →
    ∃ published ∈ state.publishes, published.acked ∧ published.publication = publication

theorem Knows.start (state : State) : Knows state View.start where
  fresh _ member := by cases member
  written _ _ impossible := by cases impossible
  confirmed _ impossible := by cases impossible

theorem Knows.keeps {before after : State} {view : View} (knows : Knows before view)
    (keeps : Keeps before after) : Knows after view where
  fresh entry member := by
    obtain ⟨row,present,id,eventType,payload⟩ := knows.fresh entry member
    obtain ⟨kept,still,same⟩ := keeps.rows entry.1 row present
    exact ⟨kept,still,(congrArg Recorded.id same).trans id,
      (congrArg Recorded.eventType same).trans eventType,
      (congrArg Recorded.payload same).trans payload⟩
  written channel publication same := by
    obtain ⟨published,member,there,what⟩ := knows.written channel publication same
    obtain ⟨kept,present,channels,publications,_⟩ := keeps.publishes published member
    exact ⟨kept,present,channels.trans there,publications.trans what⟩
  confirmed publication same := by
    obtain ⟨published,member,acked,what⟩ := knows.confirmed publication same
    obtain ⟨kept,present,_,publications,still⟩ := keeps.publishes published member
    exact ⟨kept,present,still acked,publications.trans what⟩

theorem Knows.less {state : State} {view less : View} (knows : Knows state view)
    (fresh : ∀ entry ∈ less.fresh, entry ∈ view.fresh)
    (written : less.written = view.written ∨ less.written = none)
    (confirmed : less.confirmed = view.confirmed ∨ less.confirmed = none) : Knows state less where
  fresh entry member := knows.fresh entry (fresh entry member)
  written channel publication same := by
    rcases written with old | lost
    · exact knows.written channel publication (old.symm.trans same)
    · rw [lost] at same
      cases same
  confirmed publication same := by
    rcases confirmed with old | lost
    · exact knows.confirmed publication (old.symm.trans same)
    · rw [lost] at same
      cases same

theorem Knows.error {state : State} {view : View} (knows : Knows state view) (request : Request)
    (error : Thrown) : Knows state (view.observe request (.error error)) := by
  cases request with
  | query service statement =>
    cases statement with
    | markSent id version =>
      exact knows.less (fun _ member => List.mem_of_mem_filter member) (.inl rfl) (.inl rfl)
    | claim _ _ | markFailed _ _ _ _ _ _ | reap _ | replayOne _ | replayFailed _ =>
      exact knows.less (fun _ member => member) (.inl rfl) (.inl rfl)
  | publish channel publication => exact knows.less (fun _ member => member) (.inr rfl) (.inr rfl)
  | getChannel _ | inject _ | waitForConfirms _ | newDate | fencedPublish _ | declare _ =>
    exact knows.less (fun _ member => member) (.inl rfl) (.inl rfl)

theorem Knows.query {state : State} {pid : Nat} {service : Service} {statement : Statement}
    {update : Update OutboxEvent OutboxEvent.id} {view : View}
    (knows : Knows (state.execute pid service statement update) view) :
    Knows (state.execute pid service statement update) (view.observe (.query service statement)
      (.ok (statement.returned ((state.table service).returning update)))) := by
  cases statement with
  | claim lockedBy limit =>
    refine ⟨?_,knows.written,knows.confirmed⟩
    intro entry member
    obtain ⟨claimed,returned,rfl⟩ := List.mem_map.mp member
    obtain ⟨row,among,rfl⟩ := List.mem_map.mp returned
    obtain ⟨before,present,matched,same⟩ := Table.mem_returning.mp among
    refine ⟨row,?_,rfl,rfl,rfl⟩
    rw [State.mem_execute,if_pos rfl]
    exact ⟨before,present,same.trans (Update.write_of matched).symm⟩
  | markSent id version =>
    exact knows.less (fun _ member => List.mem_of_mem_filter member) (.inl rfl) (.inl rfl)
  | markFailed _ _ _ _ _ _ | reap _ | replayOne _ | replayFailed _ =>
    exact knows.less (fun _ member => member) (.inl rfl) (.inl rfl)

theorem Knows.serve {state after : State} {pid : Nat} {request : Request} {choice : Choice} {view : View}
    {reply : Except Thrown (Reply returningRows request)} (knows : Knows state view)
    (served : state.serve pid request choice = some (reply,after)) :
    Knows after (view.observe request reply) := by
  have kept := knows.keeps (.serve served)
  cases request with
  | query service statement =>
    obtain ⟨update,_,rfl,rfl⟩ := State.serve_query served
    exact kept.query
  | publish channel publication =>
    obtain ⟨rfl,rfl⟩ := State.serve_publish served
    refine ⟨kept.fresh,?_,fun _ impossible => by cases impossible⟩
    intro other written same
    obtain ⟨rfl,rfl⟩ := Prod.mk.inj (Option.some.inj same)
    exact ⟨_,List.mem_append_right _ List.mem_cons_self,rfl,rfl⟩
  | waitForConfirms channel =>
    obtain ⟨acked,rfl⟩ := State.serve_waitForConfirms served
    cases reply with
    | error error => exact knows.error _ _
    | ok reply =>
      refine ⟨knows.fresh,knows.written,?_⟩
      intro publication same
      obtain ⟨written,kept,rfl⟩ := Option.map_eq_some_iff.mp same
      obtain ⟨last,here⟩ := Option.filter_eq_some_iff.mp kept
      obtain ⟨published,member,there,what⟩ := knows.written written.1 written.2 last
      refine ⟨published,member,?_,what⟩
      have all := List.all_eq_true.mp acked published member
      simpa [there,eq_of_beq here] using all
  | getChannel _ | inject _ | newDate | fencedPublish _ | declare _ =>
    exact kept.less (fun _ member => by cases reply <;> exact member) (by cases reply <;> exact .inl rfl)
      (by cases reply <;> exact .inl rfl)

structure Backed (state : State) : Prop where
  inserted : ∀ service recorded, (service,recorded) ∈ state.history.recorded →
    ∃ row ∈ state.table service, row.recorded = recorded
  known : ∀ service, ∀ row ∈ state.table service, (service,row.recorded) ∈ state.history.recorded
  sent : ∀ service, ∀ row ∈ state.table service, row.status = .sent →
    state.HasConfirmed row.eventType row.payload

theorem Backed.initial (now : Int) (broker : Amqp.Topology) :
    Backed (.initial now (fun _ => Table.empty) broker) where
  inserted _ _ impossible := by cases impossible
  known _ _ member := (Table.not_mem_empty _ member).elim
  sent _ _ member := (Table.not_mem_empty _ member).elim

section execution
variable {settings : Settings} {state : State} {pid : Nat} {service : Service}
  {statement : Statement} {update : Update OutboxEvent OutboxEvent.id} {scan : List Nat} {view : View}

theorem execute_recorded (state : State) (pid : Nat) (service : Service) (statement : Statement)
    (update : Update OutboxEvent OutboxEvent.id) :
    (state.execute pid service statement update).history.recorded = state.history.recorded := by
  cases statement <;> rfl

theorem Backed.execute_sent (backed : Backed state) (knows : Knows state view)
    (allowed : (settlement settings).allows view (.query service statement))
    (means : statement.update (state.table service) state.now scan = some update)
    (other : Service) (row : OutboxEvent)
    (member : row ∈ (state.execute pid service statement update).table other)
    (sent : row.status = .sent) : state.HasConfirmed row.eventType row.payload := by
  rw [State.mem_execute] at member
  by_cases here : other = service
  · subst here
    rw [if_pos rfl] at member
    obtain ⟨before,member,rfl⟩ := member
    have same := write_recorded means member
    have eventType : (update.write before).eventType = before.eventType := congrArg Recorded.eventType same
    have payload : (update.write before).payload = before.payload := congrArg Recorded.payload same
    rw [eventType,payload]
    have failing : ∀ status attempts lastError nextRetryAt id version,
        statement = .markFailed status attempts lastError nextRetryAt id version → status ≠ .sent := by
      intro status attempts lastError nextRetryAt id version equal
      subst equal
      exact allowed.2
    rcases write_sent means member sent failing with old | marking
    · exact backed.sent other before member old
    · subst marking
      obtain ⟨_,claimed,publication,fresh,token,confirmed,carries⟩ := allowed
      obtain ⟨published,published_member,acked,rfl⟩ := knows.confirmed publication confirmed
      obtain ⟨found,present,id,foundType,foundPayload⟩ := knows.fresh _ fresh
      have claimed_id : claimed.id = before.id := congrArg Token.id token
      have one := Table.eq_of_key present member (id.trans claimed_id)
      rw [one] at foundType foundPayload
      exact ⟨published,published_member,acked,foundType ▸ foundPayload ▸ carries⟩
  · rw [if_neg here] at member
    exact backed.sent other row member sent

theorem Backed.execute (backed : Backed state) (knows : Knows state view)
    (allowed : (settlement settings).allows view (.query service statement))
    (means : statement.update (state.table service) state.now scan = some update) :
    Backed (state.execute pid service statement update) where
  inserted other recorded present := by
    rw [execute_recorded] at present
    obtain ⟨row,member,same⟩ := backed.inserted other recorded present
    have keeps : Keeps state (state.execute pid service statement update) := Keeps.execute means
    obtain ⟨kept,still,equal⟩ := keeps.rows other row member
    exact ⟨kept,still,equal.trans same⟩
  known other row member := by
    rw [execute_recorded]
    rw [State.mem_execute] at member
    by_cases here : other = service
    · subst here
      rw [if_pos rfl] at member
      obtain ⟨before,member,rfl⟩ := member
      rw [write_recorded means member]
      exact backed.known other before member
    · rw [if_neg here] at member
      exact backed.known other row member
  sent other row member sent :=
    (backed.execute_sent knows allowed means other row member sent).keeps (.execute means)

end execution

theorem Backed.congr {state after : State} (backed : Backed state) (table : after.table = state.table)
    (recorded : after.history.recorded = state.history.recorded) (keeps : Keeps state after) :
    Backed after where
  inserted := by rw [recorded,table]; exact backed.inserted
  known := by rw [recorded,table]; exact backed.known
  sent service row member sent := by
    rw [table] at member
    exact (backed.sent service row member sent).keeps keeps

theorem Backed.serve_sent {settings : Settings} {state after : State} {pid : Nat} {request : Request}
    {choice : Choice} {view : View} {reply : Except Thrown (Reply returningRows request)}
    (backed : Backed state) (knows : Knows state view)
    (allowed : (settlement settings).allows view request)
    (served : state.serve pid request choice = some (reply,after)) (service : Service)
    (row : OutboxEvent) (member : row ∈ after.table service) (sent : row.status = .sent) :
    state.HasConfirmed row.eventType row.payload := by
  rcases State.serve_cases served with ⟨here,statement,update,rfl,means,rfl⟩ | ⟨_,table,_⟩
  · exact backed.execute_sent knows allowed means service row member sent
  · rw [table] at member
    exact backed.sent service row member sent

theorem Backed.serve {settings : Settings} {state after : State} {pid : Nat} {request : Request}
    {choice : Choice} {view : View} {reply : Except Thrown (Reply returningRows request)}
    (backed : Backed state) (knows : Knows state view)
    (allowed : (settlement settings).allows view request)
    (served : state.serve pid request choice = some (reply,after)) : Backed after := by
  have keeps := Keeps.serve served
  rcases State.serve_cases served with ⟨service,statement,update,rfl,means,rfl⟩ | ⟨_,table,history⟩
  · exact backed.execute knows allowed means
  · exact backed.congr table (congrArg History.recorded history) keeps

theorem Backed.external_sent {state after : State} {event : External} (backed : Backed state)
    (happened : state.external event = some after) (service : Service) (row : OutboxEvent)
    (member : row ∈ after.table service) (sent : row.status = .sent) :
    state.HasConfirmed row.eventType row.payload := by
  cases event with
  | elapse ms =>
    obtain rfl := Option.some.inj happened
    exact backed.sent service row member sent
  | insert here recorded nextRetryAt =>
    obtain ⟨fresh,rfl⟩ := State.external_insert happened
    rcases (State.mem_insert fresh).mp member with old | ⟨_,rfl⟩
    · exact backed.sent service row old sent
    · cases sent
  | route index =>
    obtain ⟨_,_,_,rfl⟩ := State.settlePublish_eq happened
    exact backed.sent service row member sent
  | reject index =>
    obtain ⟨_,_,_,rfl⟩ := State.settlePublish_eq happened
    exact backed.sent service row member sent

theorem Backed.external {state after : State} {event : External} (backed : Backed state)
    (happened : state.external event = some after) : Backed after := by
  have keeps := Keeps.external happened
  cases event with
  | elapse ms =>
    obtain rfl := Option.some.inj happened
    exact backed.congr rfl rfl keeps
  | insert here recorded nextRetryAt =>
    have sent := backed.external_sent happened
    obtain ⟨fresh,rfl⟩ := State.external_insert happened
    refine ⟨?_,?_,fun service row member isSent => (sent service row member isSent).keeps keeps⟩
    · intro service other present
      rcases List.mem_append.mp present with old | new
      · obtain ⟨row,member,same⟩ := backed.inserted service other old
        exact ⟨row,(State.mem_insert fresh).mpr (.inl member),same⟩
      · obtain ⟨rfl,rfl⟩ := Prod.mk.inj (List.mem_singleton.mp new)
        exact ⟨_,(State.mem_insert fresh).mpr (.inr ⟨rfl,rfl⟩),rfl⟩
    · intro service row member
      rcases (State.mem_insert fresh).mp member with old | ⟨rfl,rfl⟩
      · exact List.mem_append_left _ (backed.known service row old)
      · exact List.mem_append_right _ List.mem_cons_self
  | route index =>
    obtain ⟨_,_,_,rfl⟩ := State.settlePublish_eq happened
    exact backed.congr rfl rfl keeps
  | reject index =>
    obtain ⟨_,_,_,rfl⟩ := State.settlePublish_eq happened
    exact backed.congr rfl rfl keeps

/-- Every inserted row stays with its columns, and the broker has confirmed what is marked sent. -/
theorem Backed.sound (settings : Settings) :
    (relayWorld returningRows settings).Sound (settlement settings) settled (fun _ _ => True) (fun _ => Backed)
      (fun _ => Knows) :=
  relay_sound (fun state _ _ => .start state)
    (fun _ _ _ request _ _ _ _ backed knows allowed _ _ served => by
      refine ⟨backed.serve knows allowed served,?_,fun _ _ _ other => other.keeps (.serve served)⟩
      intro outcome possible
      rcases possible with rfl | ⟨error,rfl⟩
      · exact knows.serve served
      · exact (knows.keeps (.serve served)).error request error)
    (fun _ _ _ request error knows => knows.error request error)
    (fun _ _ _ backed _ happened =>
      ⟨backed.external happened,fun _ _ knows => knows.keeps (.external happened)⟩)

theorem step_sent_confirmed {settings : Settings} {now : Int} {broker : Amqp.Topology}
    {pool after : RelayPool} {action : RelayAction}
    (reached : (relayWorld returningRows settings).Reach (fun _ _ => True)
      (.initial now (fun _ => Table.empty) broker) pool)
    (taken : (relayWorld returningRows settings).step pool action = some after) (service : Service)
    (row : OutboxEvent) (member : row ∈ after.shared.table service) (sent : row.status = .sent) :
    pool.shared.HasConfirmed row.eventType row.payload := by
  have first := Backed.initial now broker
  have backed := World.reach_inv (Backed.sound settings) first reached
  cases action with
  | resume pid answer =>
    obtain ⟨request,reply,view,_,answered,knows,allowed⟩ :=
      World.reach_performs (Backed.sound settings) first reached taken
    rcases World.answer_cases answered with ⟨choice,served,_,performed,_⟩ | ⟨refused,_⟩
    · exact backed.serve_sent knows allowed performed service row member sent
    · rw [refused] at member
      exact backed.sent service row member sent
  | crash pid =>
    obtain ⟨_,_,rfl⟩ := Option.map_eq_some_iff.mp taken
    exact backed.sent service row member sent
  | external event =>
    obtain ⟨state,happened,rfl⟩ := Option.map_eq_some_iff.mp taken
    exact backed.external_sent happened service row member sent
  | start task =>
    obtain rfl := Option.some.inj taken
    exact backed.sent service row member sent

/-- No row is lost or altered, and when a row is sent, the broker had before that confirmed a
publish of the row's payload to the row's exchange and routing key. -/
theorem sent_rows_confirmed (settings : Settings) (now : Int) (broker : Amqp.Topology)
    {pool : RelayPool} (reached : (relayWorld returningRows settings).Reach (fun _ _ => True)
      (.initial now (fun _ => Table.empty) broker) pool) :
    (∀ service recorded, (service,recorded) ∈ pool.shared.history.recorded →
      ∃ row ∈ pool.shared.table service, row.recorded = recorded) ∧
    (∀ service, ∀ row ∈ pool.shared.table service,
      (service,row.recorded) ∈ pool.shared.history.recorded) ∧
    ∀ action after, (relayWorld returningRows settings).step pool action = some after →
      ∀ service, ∀ row ∈ after.shared.table service, row.status = .sent →
        pool.shared.HasConfirmed row.eventType row.payload := by
  have backed := World.reach_inv (Backed.sound settings) (Backed.initial now broker) reached
  exact ⟨backed.inserted,backed.known,fun _ _ taken => step_sent_confirmed reached taken⟩

def confirmedCommand : List RelayAction := [
  .external (.insert .gateway sampleCommand 0),
  .start (.runRelayTick .gateway "a" 25),
  .resume 0 (.served { scan := [1] }),
  .resume 0 (.served { channel := 7 }),
  .resume 0 (.served {}),
  .resume 0 (.served {}),
  .external (.route 0),
  .resume 0 (.served {})]

set_option maxRecDepth 4000 in
theorem confirmed_command_sent : ∃ pool after, sampleRun confirmedCommand = some pool ∧
    (relayWorld returningRows sampleSettings).step pool (.resume 0 (.served {})) = some after ∧
    ∃ row ∈ after.shared.table .gateway, row.status = .sent ∧
      pool.shared.HasConfirmed row.eventType row.payload := by
  let pool := (sampleRun confirmedCommand).get (by decide)
  let after := ((relayWorld returningRows sampleSettings).step pool (.resume 0 (.served {}))).get (by decide)
  have ran : sampleRun confirmedCommand = some pool := (Option.some_get _).symm
  have taken : (relayWorld returningRows sampleSettings).step pool (.resume 0 (.served {})) = some after :=
    (Option.some_get _).symm
  have reached : (relayWorld returningRows sampleSettings).Reach (fun _ _ => True) sampleState pool :=
    Machine.run_reaches ran (by decide)
  have sent : ∃ row ∈ (after.shared.table .gateway).rows, row.status = .sent := by decide
  obtain ⟨row,member,sent⟩ := sent
  have confirmed := (sent_rows_confirmed sampleSettings 0 _ reached).2.2 _ after taken .gateway row member sent
  exact ⟨pool,after,ran,taken,row,member,sent,confirmed⟩

end MessagingPlatform.Outbox
