import MessagingPlatform.Outbox.Journal

/-! The columns of the outbox rows fit together in every reachable state: a row is locked completely
or not at all, its attempts stay within its budget, and its status says how many of them are left.
The bound needs the fencing tokens, because the attempts are written from a value that was read when
the row was claimed. -/
namespace MessagingPlatform.Outbox
open Driver

structure OutboxEvent.WellFormed (row : OutboxEvent) : Prop where
  locks : row.lockedAt = none ↔ row.lockedBy = none
  unlocked : row.status = .sent ∨ row.status = .failed → row.lockedAt = none
  counted : 0 ≤ row.attempts ∧ row.attempts ≤ row.maxAttempts
  pending : row.status = .pending → row.attempts < row.maxAttempts
  exhausted : row.status = .failed → row.attempts = row.maxAttempts
  dated : row.status = .sent → row.sentAt.isSome

structure OutboxEvent.Lawful (row : OutboxEvent) (failures : List Int) : Prop where
  wellFormed : row.WellFormed
  budget : 1 ≤ row.maxAttempts
  counted : row.attempts = failures.length
  scheduled : ∀ time, failures.getLast? = some time → row.attempts < row.maxAttempts →
    row.nextRetryAt = time + backoffMs failures.length

/-- A failure is recorded with the next number of attempts, and its status and date follow from it. -/
def Statement.RecordsNext (row : OutboxEvent) (failures : List Int) (time : Int) : Statement → Prop
  | .markFailed status attempts _ nextRetryAt _ _ => attempts = row.attempts + 1 ∧
      row.attempts < row.maxAttempts ∧ (row.maxAttempts ≤ attempts → status = .failed) ∧
      (attempts < row.maxAttempts → status = .pending ∧
        nextRetryAt = some (time + backoffMs (failures.length + 1)))
  | _ => True

theorem OutboxEvent.WellFormed.unlock {row : OutboxEvent} (wellFormed : row.WellFormed) :
    row.unlocked.WellFormed where
  locks := iff_of_true rfl rfl
  unlocked _ := rfl
  counted := wellFormed.counted
  pending := wellFormed.pending
  exhausted := wellFormed.exhausted
  dated := wellFormed.dated

theorem OutboxEvent.Lawful.replayed {row : OutboxEvent} {failures : List Int} (lawful : row.Lawful failures)
    (now : Int) : (row.replayed now).Lawful [] := by
  have budget := lawful.budget
  refine ⟨⟨iff_of_true rfl rfl,fun _ => rfl,?_,?_,?_,?_⟩,budget,rfl,fun _ impossible => by cases impossible⟩
  · change (0 : Int) ≤ 0 ∧ 0 ≤ row.maxAttempts
    omega
  · intro _
    change 0 < row.maxAttempts
    omega
  · intro impossible
    cases impossible
  · intro impossible
    cases impossible

theorem OutboxEvent.Lawful.fail {row : OutboxEvent} {failures : List Int} (lawful : row.Lawful failures)
    {status : OutboxStatus} {attempts time nextRetryAt : Int} {lastError : String} {id : Nat} {version : Int}
    (next : (Statement.markFailed status attempts lastError (some nextRetryAt) id version).RecordsNext row failures time) :
    OutboxEvent.Lawful { row.unlocked with status, attempts, lastError := some lastError, nextRetryAt }
      (failures ++ [time]) := by
  obtain ⟨counted,below,spent,left⟩ := next
  have nonnegative := lawful.wellFormed.counted.1
  have length : ((failures ++ [time]).length : Int) = attempts := by
    rw [List.length_append,counted,lawful.counted]
    simp
  have decided : (attempts < row.maxAttempts ∧ status = .pending) ∨
      (attempts = row.maxAttempts ∧ status = .failed) := by
    rcases lt_or_ge attempts row.maxAttempts with within | most
    · exact .inl ⟨within,(left within).1⟩
    · exact .inr ⟨by omega,spent most⟩
  refine ⟨⟨iff_of_true rfl rfl,fun _ => rfl,?_,?_,?_,?_⟩,lawful.budget,length.symm,?_⟩
  · change 0 ≤ attempts ∧ attempts ≤ row.maxAttempts
    omega
  · intro pending
    rcases decided with ⟨within,_⟩ | ⟨_,failed⟩
    · exact within
    · exact absurd (failed.symm.trans pending) (by decide)
  · intro failed
    rcases decided with ⟨_,pending⟩ | ⟨equal,_⟩
    · exact absurd (pending.symm.trans failed) (by decide)
    · exact equal
  · intro sent
    rcases decided with ⟨_,pending⟩ | ⟨_,failed⟩
    · exact absurd (pending.symm.trans sent) (by decide)
    · exact absurd (failed.symm.trans sent) (by decide)
  · intro last same within
    rw [List.getLast?_append,List.getLast?_singleton,Option.some_or] at same
    obtain rfl := Option.some.inj same
    have date := Option.some.inj (left within).2
    rw [List.length_append]
    exact date

theorem Statement.Writes.lawful {now time : Int} {statement : Statement} {row after : OutboxEvent}
    {failures : List Int} (writes : statement.Writes now row after) (lawful : row.Lawful failures)
    (next : statement.RecordsNext row failures time) :
    after.Lawful (statement.journaled time failures) := by
  obtain ⟨wellFormed,budget,counted,scheduled⟩ := lawful
  cases writes with
  | claim due =>
    simp only [OutboxEvent.due,Bool.and_eq_true,beq_iff_eq] at due
    refine ⟨⟨iff_of_false (by simp) (by simp),?_,wellFormed.counted,wellFormed.pending,
      wellFormed.exhausted,wellFormed.dated⟩,budget,counted,scheduled⟩
    intro settled
    rcases settled with sent | failed
    · exact absurd (sent.symm.trans due.1) (by decide)
    · exact absurd (failed.symm.trans due.1) (by decide)
  | markSent =>
    refine ⟨⟨iff_of_true rfl rfl,fun _ => rfl,wellFormed.counted,?_,?_,fun _ => rfl⟩,budget,counted,scheduled⟩
    · intro impossible
      cases impossible
    · intro impossible
      cases impossible
  | markFailed => exact OutboxEvent.Lawful.fail ⟨wellFormed,budget,counted,scheduled⟩ next
  | reap pending locked stale => exact ⟨wellFormed.unlock,budget,counted,scheduled⟩
  | replayOne failed => exact OutboxEvent.Lawful.replayed ⟨wellFormed,budget,counted,scheduled⟩ now
  | replayFailed failed selected => exact OutboxEvent.Lawful.replayed ⟨wellFormed,budget,counted,scheduled⟩ now

/-- The row of a claim that its program has not recorded a failure for: while it carries the version
of the claim, it has the attempts that it was claimed with. -/
structure Untouched (pid : Nat) (state : State) (entry : Service × ClaimedRow) : Prop where
  claimed : (entry.2.token entry.1,pid) ∈ state.history.claims
  budget : 0 ≤ entry.2.attempts ∧ entry.2.attempts < entry.2.maxAttempts
  current : ∀ row ∈ state.table entry.1, row.token entry.1 = entry.2.token entry.1 →
    row.attempts = entry.2.attempts ∧ row.maxAttempts = entry.2.maxAttempts ∧ row.status ≠ .failed

structure Journaled (state : State × Journal) : Prop where
  fenced : Fenced state.1
  lawful : ∀ service, ∀ row ∈ state.1.table service, row.Lawful (state.2.failures service row.id)

structure Aware (pid : Nat) (state : State × Journal) (view : Trying) : Prop where
  read : ∀ time, view.read = some time → state.2.read pid = time
  tries : ∀ entry ∈ view.tries, Untouched pid state.1 entry

section execution
variable {settings : Settings} {state : State} {journal : Journal} {pid : Nat} {service : Service}
  {statement : Statement} {update : Update OutboxEvent OutboxEvent.id} {choice : Choice} {view : Trying}

theorem Aware.recordsNext (journaled : Journaled (state,journal)) (aware : Aware pid (state,journal) view)
    (allowed : (recording settings.engine).allows view (.query service statement))
    (means : statement.update (state.table service) state.now choice.scan = some update)
    {row : OutboxEvent} (member : row ∈ state.table service) (matched : update.cond row) :
    statement.RecordsNext row (journal.failures service row.id) (journal.read pid) := by
  cases statement with
  | markFailed status attempts lastError nextRetryAt id version =>
    obtain ⟨claimed,mine,token,fails⟩ := allowed
    obtain ⟨same_id,same_version⟩ := settles_cond means rfl member matched
    have untouched := aware.tries _ mine
    have same : row.token service = claimed.token service := by
      rw [token]
      simp [OutboxEvent.token,same_id,same_version]
    obtain ⟨sameAttempts,sameBudget,_⟩ := untouched.current row member same
    have counted := fails.counted
    have budget := untouched.budget
    simp only at sameAttempts sameBudget budget
    refine ⟨by omega,by omega,?_,?_⟩
    · intro most
      exact fails.exhausted (by omega)
    · intro within
      obtain ⟨pending,read,reading,date⟩ := fails.retried (by omega)
      have time := aware.read read reading
      have length : row.attempts = (journal.failures service row.id).length :=
        (journaled.lawful service row member).counted
      have number : attempts = ((journal.failures service row.id).length + 1 : Nat) := by
        push_cast
        omega
      refine ⟨pending,?_⟩
      rw [date,number,← time]
      have whole : ((((journal.failures service row.id).length + 1 : Nat) : Int) : ℚ) =
          (((journal.failures service row.id).length + 1 : Nat) : ℚ) := by push_cast; rfl
      rw [whole,addMs_backoff settings.engine _ (Nat.le_add_left 1 _)]
  | claim _ _ | markSent _ _ | reap _ | replayOne _ | replayFailed _ => trivial

theorem Journaled.execute (journaled : Journaled (state,journal)) (aware : Aware pid (state,journal) view)
    (allowed : (recording settings.engine).allows view (.query service statement))
    (means : statement.update (state.table service) state.now choice.scan = some update) :
    Journaled (state.execute pid service statement update,
      journal.note state (.performs pid (.query service statement) choice)) where
  fenced := journaled.fenced.execute means
  lawful other row member := by
    rw [State.mem_execute] at member
    by_cases here : other = service
    · subst here
      rw [if_pos rfl] at member
      obtain ⟨before,present,rfl⟩ := member
      have touched := touches_row means present
      have lawful := journaled.lawful other before present
      rw [update.key_write]
      simp only [Journal.note,true_and]
      by_cases matched : update.cond before = true
      · rw [if_pos (touched.mpr matched),Update.write_of matched]
        exact (Statement.write_cases means present matched).lawful lawful
          (aware.recordsNext journaled allowed means present matched)
      · rw [if_neg (fun both => matched (touched.mp both)),Update.write_of_not matched]
        exact lawful
    · rw [if_neg here] at member
      have unnoted : (journal.note state (.performs pid (.query service statement) choice)).failures other row.id =
          journal.failures other row.id := by simp [Journal.note,here]
      rw [unnoted]
      exact journaled.lawful other row member

/-- A claim that its owner has not given up stays as it was read, whoever performs the statement. -/
theorem Untouched.execute {owner : Nat} {entry : Service × ClaimedRow} (fenced : Fenced state)
    (untouched : Untouched owner state entry)
    (means : statement.update (state.table service) state.now choice.scan = some update)
    (spared : ∀ status attempts lastError nextRetryAt id version,
      statement = .markFailed status attempts lastError nextRetryAt id version →
      entry.2.token entry.1 ≠ ⟨service,id,version⟩) :
    Untouched owner (state.execute pid service statement update) entry where
  claimed := by
    rw [execute_claims]
    exact List.mem_append_left _ untouched.claimed
  budget := untouched.budget
  current := by
    intro row member same
    rw [State.mem_execute] at member
    by_cases here : entry.1 = service
    · rw [if_pos here] at member
      obtain ⟨before,present,rfl⟩ := member
      by_cases matched : update.cond before = true
      · rw [here] at present
        have writes := Statement.write_cases means present matched
        rw [Update.write_of matched] at same ⊢
        generalize update.set before = after at writes same
        cases writes with
        | claim due =>
          have bound := fenced.current service before present _ untouched.claimed here
            (congrArg Token.id same).symm
          have version : before.lockVersion + 1 = entry.2.lockVersion := congrArg Token.version same
          simp only [ClaimedRow.token] at bound
          omega
        | markSent =>
          obtain ⟨attempts,budget,_⟩ := untouched.current before (here ▸ present) same
          exact ⟨attempts,budget,by simp⟩
        | markFailed =>
          have other := spared _ _ _ _ _ _ rfl
          rw [← same,here] at other
          exact absurd rfl other
        | reap pending locked stale => exact untouched.current before (here ▸ present) same
        | replayOne failed =>
          exact absurd failed (untouched.current before (here ▸ present) same).2.2
        | replayFailed failed selected =>
          exact absurd failed (untouched.current before (here ▸ present) same).2.2
      · rw [Update.write_of_not matched] at same ⊢
        exact untouched.current before present same
    · rw [if_neg here] at member
      exact untouched.current row member same

theorem Journaled.claims (journaled : Journaled (state,journal)) {lockedBy : String} {limit : Nat}
    (means : (Statement.claim lockedBy limit).update (state.table service) state.now choice.scan = some update)
    {row : OutboxEvent} (returned : row ∈ (state.table service).returning update) :
    Untouched pid (state.execute pid service (.claim lockedBy limit) update) (service,row.claimed) where
  claimed := List.mem_append_right _ (List.mem_map_of_mem returned)
  budget := by
    obtain ⟨before,present,matched,same⟩ := Table.mem_returning.mp returned
    have wellFormed := (journaled.lawful service before present).wellFormed
    have writes := Statement.write_cases means present matched
    rw [← same] at writes
    cases writes with
    | claim due =>
      simp only [OutboxEvent.due,Bool.and_eq_true,beq_iff_eq] at due
      exact ⟨wellFormed.counted.1,wellFormed.pending due.1⟩
  current := by
    intro found member same
    have written : row ∈ (state.execute pid service (.claim lockedBy limit) update).table service :=
      returned_mem returned
    have one : found = row := Table.eq_of_key member written (congrArg Token.id same)
    subst one
    obtain ⟨before,present,matched,equal⟩ := Table.mem_returning.mp returned
    have writes := Statement.write_cases means present matched
    rw [← equal] at writes
    cases writes with
    | claim due =>
      simp only [OutboxEvent.due,Bool.and_eq_true,beq_iff_eq] at due
      exact ⟨rfl,rfl,by simp [due.1]⟩

theorem Aware.execute (journaled : Journaled (state,journal)) (aware : Aware pid (state,journal) view)
    (means : statement.update (state.table service) state.now choice.scan = some update)
    {outcome : Except Thrown (List statement.Row)}
    (kept : outcome = .ok (statement.returned ((state.table service).returning update)) ∨
      ∃ error, outcome = .error error) :
    ∃ next, (recording settings.engine).moves view (.query service statement) outcome next ∧
      Aware pid (state.execute pid service statement update,
        journal.note state (.performs pid (.query service statement) choice)) next := by
  have unspared : ∀ entry ∈ view.tries, (∀ status attempts lastError nextRetryAt id version,
      statement = .markFailed status attempts lastError nextRetryAt id version →
      entry.2.token entry.1 ≠ ⟨service,id,version⟩) →
      Untouched pid (state.execute pid service statement update) entry :=
    fun entry member => (aware.tries entry member).execute journaled.fenced means
  cases statement with
  | claim lockedBy limit =>
    rcases kept with same | ⟨error,same⟩
    · subst same
      refine ⟨_,⟨rfl,State.claim_distinct⟩,aware.read,?_⟩
      intro entry member
      obtain ⟨claimed,returned,rfl⟩ := List.mem_map.mp member
      obtain ⟨row,among,rfl⟩ := List.mem_map.mp returned
      exact journaled.claims means among
    · subst same
      exact ⟨view,rfl,aware.read,fun entry member => unspared entry member (fun _ _ _ _ _ _ impossible => by cases impossible)⟩
  | markFailed status attempts lastError nextRetryAt id version =>
    refine ⟨view.drop ⟨service,id,version⟩,by cases outcome <;> rfl,aware.read,?_⟩
    intro entry member
    obtain ⟨old,other⟩ := Trying.mem_drop.mp member
    refine unspared entry old ?_
    intro _ _ _ _ _ _ same
    obtain ⟨_,_,_,_,rfl,rfl⟩ := Statement.markFailed.inj same
    exact other
  | markSent _ _ | reap _ | replayOne _ | replayFailed _ =>
    refine ⟨view,by cases outcome <;> rfl,aware.read,?_⟩
    intro entry member
    exact unspared entry member (fun _ _ _ _ _ _ impossible => by cases impossible)

theorem Aware.execute_other {other : Nat} {theirs : Trying} (journaled : Journaled (state,journal))
    (aware : Aware pid (state,journal) view)
    (allowed : (recording settings.engine).allows view (.query service statement))
    (means : statement.update (state.table service) state.now choice.scan = some update)
    (apart : other ≠ pid) (awareToo : Aware other (state,journal) theirs) :
    Aware other (state.execute pid service statement update,
      journal.note state (.performs pid (.query service statement) choice)) theirs where
  read := awareToo.read
  tries entry member := by
    have untouched := awareToo.tries entry member
    refine untouched.execute journaled.fenced means ?_
    intro status attempts lastError nextRetryAt id version same token
    subst same
    obtain ⟨row,mine,mineToken,_⟩ := allowed
    have mineClaimed := (aware.tries _ mine).claimed
    dsimp only at mineClaimed
    rw [mineToken,← token] at mineClaimed
    exact apart (journaled.fenced.one_claimant untouched.claimed mineClaimed)

end execution

theorem Journaled.congr {state after : State × Journal} (journaled : Journaled state)
    (table : after.1.table = state.1.table) (claims : after.1.history.claims = state.1.history.claims)
    (failures : after.2.failures = state.2.failures) : Journaled after where
  fenced := journaled.fenced.congr table claims
  lawful := by rw [table,failures]; exact journaled.lawful

theorem Untouched.congr {pid : Nat} {state after : State} {entry : Service × ClaimedRow}
    (untouched : Untouched pid state entry) (table : after.table = state.table)
    (claims : after.history.claims = state.history.claims) : Untouched pid after entry where
  claimed := by rw [claims]; exact untouched.claimed
  budget := untouched.budget
  current := by rw [table]; exact untouched.current

theorem Untouched.insert {pid : Nat} {state : State} {entry : Service × ClaimedRow} {service : Service}
    {recorded : Recorded} {nextRetryAt : Int} (fenced : Fenced state) (untouched : Untouched pid state entry)
    (fresh : recorded.id ∉ (state.table service).keys) {after : State}
    (inserted : after = { state with
      table := Function.update state.table service
        ((state.table service).insert (recorded.row nextRetryAt) fresh)
      history.recorded := state.history.recorded ++ [(service,recorded)] }) : Untouched pid after entry := by
  subst inserted
  refine ⟨untouched.claimed,untouched.budget,?_⟩
  intro row member same
  rcases (State.mem_insert fresh).mp member with old | ⟨here,new⟩
  · exact untouched.current row old same
  · subst new
    have named := fenced.present _ untouched.claimed
    have same_id : recorded.id = entry.2.id := congrArg Token.id same
    simp only [ClaimedRow.token] at named
    rw [here,← same_id] at named
    exact absurd named fresh

theorem Journaled.external {state after : State × Journal} {event : External} (journaled : Journaled state)
    (permitted : Budgeted state.1 (.external event)) (happened : state.1.external event = some after.1)
    (noted : after.2 = state.2.note state.1 (.external event)) :
    Journaled after ∧ ∀ pid view, Aware pid state view → Aware pid after view := by
  obtain ⟨after,journal⟩ := after
  dsimp only at happened noted
  subst noted
  have same : ∀ {next : State}, after = next → next.table = state.1.table →
      next.history.claims = state.1.history.claims →
      (state.2.note state.1 (.external event)).failures = state.2.failures →
      (state.2.note state.1 (.external event)).read = state.2.read →
      Journaled (after,state.2.note state.1 (.external event)) ∧
        ∀ pid view, Aware pid state view → Aware pid (after,state.2.note state.1 (.external event)) view := by
    intro next equal table claims failures read
    subst equal
    refine ⟨journaled.congr table claims failures,?_⟩
    intro pid view aware
    exact ⟨read ▸ aware.read,fun entry member => (aware.tries entry member).congr table claims⟩
  cases event with
  | elapse ms =>
    obtain rfl := Option.some.inj happened
    exact same rfl rfl rfl rfl rfl
  | route index =>
    obtain ⟨_,_,_,equal⟩ := State.settlePublish_eq happened
    exact same equal rfl rfl rfl rfl
  | reject index =>
    obtain ⟨_,_,_,equal⟩ := State.settlePublish_eq happened
    exact same equal rfl rfl rfl rfl
  | insert service recorded nextRetryAt =>
    obtain ⟨fresh,inserted⟩ := State.external_insert happened
    refine ⟨⟨journaled.fenced.external happened,?_⟩,?_⟩
    · intro other row member
      subst inserted
      simp only [Journal.note]
      rcases (State.mem_insert fresh).mp member with old | ⟨rfl,rfl⟩
      · have apart : ¬ (other = service ∧ row.id = recorded.id) := by
          intro both
          obtain ⟨rfl,same_id⟩ := both
          exact fresh (same_id ▸ List.mem_map_of_mem old)
        rw [if_neg apart]
        exact journaled.lawful other row old
      · have budget : 1 ≤ recorded.maxAttempts := of_decide_eq_true permitted
        rw [if_pos ⟨rfl,rfl⟩]
        refine ⟨⟨iff_of_true rfl rfl,fun _ => rfl,?_,?_,?_,?_⟩,budget,rfl,fun _ impossible => by cases impossible⟩
        · change (0 : Int) ≤ 0 ∧ 0 ≤ recorded.maxAttempts
          omega
        · intro _
          change 0 < recorded.maxAttempts
          omega
        · intro impossible
          cases impossible
        · intro impossible
          cases impossible
    · intro pid view aware
      exact ⟨aware.read,fun entry member => (aware.tries entry member).insert journaled.fenced fresh inserted⟩

theorem Aware.other {engine : Engine} {state after : State} {journal : Journal} {pid : Nat} {request : Request}
    {choice : Choice} {reply outcome : Except Thrown (Reply returningRows request)} {view : Trying}
    (other : ∀ service statement, request ≠ .query service statement)
    (aware : Aware pid (state,journal) view)
    (served : state.serve pid request choice = some (reply,after))
    (kept : outcome = reply ∨ ∃ error : Thrown, request.fails = true ∧ outcome = .error error) :
    ∃ next, (recording engine).moves view request outcome next ∧
      Aware pid (after,journal.note state (.performs pid request choice)) next := by
  obtain ⟨-,table,history⟩ := State.serve_apart other served
  have claims := congrArg History.claims history
  have tries : ∀ entry ∈ view.tries, Untouched pid after entry :=
    fun entry member => (aware.tries entry member).congr table claims
  cases request with
  | query service statement => exact absurd rfl (other service statement)
  | newDate =>
    rcases kept with same | ⟨error,fails,_⟩
    · obtain ⟨replied,_⟩ := Prod.mk.inj (Option.some.inj served)
      subst same replied
      refine ⟨_,rfl,?_,tries⟩
      intro time same
      obtain rfl := Option.some.inj same
      simp [Journal.note]
    · cases fails
  | getChannel _ | inject _ | publish _ _ | waitForConfirms _ | fencedPublish _ | declare _ =>
    exact ⟨view,by cases outcome <;> rfl,aware.read,tries⟩

/-- The columns of every row agree with one another and with the failures that were recorded for it. -/
theorem Journaled.sound (settings : Settings) :
    (journaledWorld returningRows settings).Sound (recording settings.engine)
      (fun _ _ => True) (World.Unghosted Budgeted)
      (fun _ => Journaled) Aware where
  starts fresh state task program after journaled _ started := by
    obtain ⟨rfl,rfl⟩ := Prod.mk.inj (Option.some.inj started)
    refine ⟨journaled,⟨.start,⟨?_,?_⟩,task.program_recorded settings⟩,fun _ _ _ aware => aware⟩
    · intro time impossible
      cases impossible
    · intro entry impossible
      cases impossible
  serves fresh state pid view request answer choice reply after journaled _ aware allowed _ chosen served := by
    obtain ⟨performed,noted⟩ := World.withGhost_serve served
    obtain ⟨state,journal⟩ := state
    obtain ⟨after,noting⟩ := after
    dsimp only at performed noted
    subst noted
    by_cases query : ∃ service statement, request = .query service statement
    · obtain ⟨service,statement,rfl⟩ := query
      obtain ⟨update,means,replied,rfl⟩ := State.serve_query performed
      subst replied
      refine ⟨journaled.execute aware allowed means,?_,?_⟩
      · intro outcome kept
        exact aware.execute journaled means (kept.imp_right (fun ⟨error,_,same⟩ => ⟨error,same⟩))
      · intro other apart theirs awareToo
        exact aware.execute_other journaled allowed means apart awareToo
    · have other : ∀ service statement, request ≠ .query service statement :=
        fun service statement same => query ⟨service,statement,same⟩
      obtain ⟨-,table,history⟩ := State.serve_apart other performed
      have claims := congrArg History.claims history
      refine ⟨journaled.congr table claims ?_,?_,?_⟩
      · cases request with
        | query service statement => exact absurd rfl (other service statement)
        | newDate | getChannel _ | inject _ | publish _ _ | waitForConfirms _ | fencedPublish _ | declare _ => rfl
      · intro outcome kept
        exact aware.other other performed kept
      · intro someone apart theirs awareToo
        refine ⟨?_,fun entry member => (awareToo.tries entry member).congr table claims⟩
        intro time same
        have read := awareToo.read time same
        cases request with
        | query service statement => exact absurd rfl (other service statement)
        | newDate => simpa [Journal.note,apart] using read
        | getChannel _ | inject _ | publish _ _ | waitForConfirms _ | fencedPublish _ | declare _ => exact read
  refuses fresh state pid view request error journaled aware allowed fails := by
    cases request with
    | newDate => cases fails
    | query service statement =>
      cases statement with
      | markFailed status attempts lastError nextRetryAt id version =>
        refine ⟨view.drop ⟨service,id,version⟩,rfl,aware.read,?_⟩
        intro entry member
        exact aware.tries entry (Trying.mem_drop.mp member).1
      | claim _ _ | markSent _ _ | reap _ | replayOne _ | replayFailed _ => exact ⟨view,rfl,aware⟩
    | getChannel _ | inject _ | publish _ _ | waitForConfirms _ | fencedPublish _ | declare _ =>
      exact ⟨view,rfl,aware⟩
  crashes _ _ _ journaled _ := ⟨journaled,fun _ _ _ aware => aware⟩
  externals fresh state event after journaled permitted happened := by
    obtain ⟨next,performed,rfl⟩ := Option.map_eq_some_iff.mp happened
    exact journaled.external permitted performed rfl

theorem Journaled.initial (now : Int) (broker : Amqp.Topology) :
    Journaled (.initial now (fun _ => Table.empty) broker,.blank) where
  fenced := .initial _ _ _
  lawful _ _ member := absurd member (Table.not_mem_empty _)

theorem lockVersion_mono {settings : Settings} {pool later : RelayPool}
    (run : Machine.Reaches (relayWorld returningRows settings).step
      ((relayWorld returningRows settings).Permits Budgeted) pool later)
    {service : Service} {row : OutboxEvent} (member : row ∈ pool.shared.table service) :
    ∃ kept ∈ later.shared.table service, kept.id = row.id ∧ row.lockVersion ≤ kept.lockVersion := by
  induction run with
  | start => exact ⟨row,member,rfl,le_refl _⟩
  | next _ _ taken ih =>
    refine @World.step_keeps _ _ _ _ _ _ _
      (relayWorld returningRows settings) (fun state => ∃ kept ∈ state.table service,
      kept.id = row.id ∧ row.lockVersion ≤ kept.lockVersion) ?_ ?_ ?_ ?_ _ _ _ ih taken
    · intro state pid request choice reply after found served
      obtain ⟨kept,present,same,above⟩ := found
      by_cases query : ∃ service statement, request = .query service statement
      · obtain ⟨other,statement,rfl⟩ := query
        obtain ⟨update,means,_,rfl⟩ := State.serve_query served
        by_cases here : service = other
        · subst here
          refine ⟨update.write kept,?_,(update.key_write kept).trans same,?_⟩
          · rw [State.mem_execute,if_pos rfl]
            exact ⟨kept,present,rfl⟩
          · exact above.trans (write_lockVersion_le means present)
        · refine ⟨kept,?_,same,above⟩
          rw [State.mem_execute,if_neg here]
          exact present
      · obtain ⟨-,table,-⟩ := State.serve_apart (fun service statement same => query ⟨service,statement,same⟩) served
        exact ⟨kept,table ▸ present,same,above⟩
    · intro state pid found
      exact found
    · intro state event after found happened
      obtain ⟨kept,present,same,above⟩ := found
      refine ⟨kept,?_,same,above⟩
      cases event with
      | elapse ms =>
        obtain rfl := Option.some.inj happened
        exact present
      | insert other recorded nextRetryAt =>
        obtain ⟨fresh,rfl⟩ := State.external_insert happened
        exact (State.mem_insert fresh).mpr (.inl present)
      | route index =>
        obtain ⟨_,_,_,rfl⟩ := State.settlePublish_eq happened
        exact present
      | reject index =>
        obtain ⟨_,_,_,rfl⟩ := State.settlePublish_eq happened
        exact present
    · intro state fresh task program after found started
      obtain ⟨_,rfl⟩ := Prod.mk.inj (Option.some.inj started)
      exact found

/-- In every reachable state of tables that were empty, every row is well formed, and in every later
state it is still there with a version that is not lower. -/
theorem rows_well_formed (settings : Settings) (now : Int) (broker : Amqp.Topology) {pool : RelayPool}
    (reached : (relayWorld returningRows settings).Reach Budgeted
      (.initial now (fun _ => Table.empty) broker) pool) :
    ∀ service, ∀ row ∈ pool.shared.table service, row.WellFormed ∧
      ∀ later, Machine.Reaches (relayWorld returningRows settings).step
        ((relayWorld returningRows settings).Permits Budgeted) pool later →
        ∃ kept ∈ later.shared.table service, kept.id = row.id ∧ row.lockVersion ≤ kept.lockVersion := by
  obtain ⟨haunted,rfl,ghostly⟩ := reached.haunt Journal.blank
  have journaled := World.reach_inv (Journaled.sound settings) (Journaled.initial now broker) ghostly
  intro service row member
  refine ⟨(journaled.lawful service row member).wellFormed,?_⟩
  intro later run
  exact lockVersion_mono run member

def failedPublish : List RelayAction := [
  .external (.insert .messaging sampleCommand 0),
  .start (.runRelayTick .messaging "relay" 25),
  .resume 0 (.served { scan := [1] }),
  .resume 0 (.refused (.ofMessage "Connection closed")),
  .resume 0 (.served { instant := 5 }),
  .resume 0 (.served {})]

set_option maxRecDepth 4000 in
theorem failed_row_well_formed : ∃ pool : RelayPool, sampleRun failedPublish = some pool ∧
    (pool.shared.table .messaging).rows.map OutboxEvent.attempts = [1] ∧
    ∀ row ∈ pool.shared.table .messaging, row.WellFormed := by
  let pool := (sampleRun failedPublish).get (by decide +kernel)
  have ran : sampleRun failedPublish = some pool := (Option.some_get _).symm
  have reached : (relayWorld returningRows sampleSettings).Reach Budgeted sampleState pool :=
    Machine.run_reaches ran (by decide +kernel)
  have attempts : (pool.shared.table .messaging).rows.map OutboxEvent.attempts = [1] := by decide +kernel
  have wellFormed := rows_well_formed sampleSettings 0 (declaredPrefix 13) reached .messaging
  exact ⟨pool,ran,attempts,fun row member => (wellFormed row member).1⟩

end MessagingPlatform.Outbox
