import Mathlib.Tactic.Linarith
import Mathlib.Tactic.NormNum
import MessagingPlatform.Lib.Ghost
import MessagingPlatform.Outbox.Steps

/-! Pending rows come round again. Whatever happens to the instances that claimed it, a pending row
is due at most one delay after it was last inserted, failed or replayed, and the next claim after
that takes it. -/
namespace MessagingPlatform.Outbox
open Driver

/-- The application reads the time of the database, and inserts rows with a reading of the past. -/
def clocksAgree (state : State) : RelayEvent → Bool
  | .performs _ .newDate answer => answer.choice?.all (fun choice => choice.instant == state.now)
  | .external (.insert _ _ nextRetryAt) => decide (nextRetryAt ≤ state.now)
  | _ => true

def ClocksAgree (state : State) (event : RelayEvent) : Prop := clocksAgree state event = true

instance (state : State) (event : RelayEvent) : Decidable (ClocksAgree state event) :=
  inferInstanceAs (Decidable (_ = true))

def Statement.reschedules : Statement → Bool
  | .markFailed _ _ _ _ _ _ | .replayOne _ | .replayFailed _ => true
  | .claim _ _ | .markSent _ _ | .reap _ => false

abbrev Written := Service → Nat → Int

def State.touches (state : State) (service : Service) (statement : Statement) (scan : List Nat) (id : Nat) :
    Bool :=
  (statement.update (state.table service) state.now scan).any (fun update =>
    (state.table service).rows.any (fun row => row.id == id && update.cond row))

def Written.note (written : Written) (state : State) : Effect Request Choice External Task → Written
  | .performs _ (.query service statement) choice => fun other id =>
      if other = service ∧ statement.reschedules = true ∧ state.touches service statement choice.scan id = true
      then state.now else written other id
  | .external (.insert service recorded _) => fun other id =>
      if other = service ∧ id = recorded.id then state.now else written other id
  | _ => written

def datedWorld (settings : Settings) :
    World (State × Written) Thrown Request (Reply returningRows) Choice External Task :=
  (relayWorld returningRows settings).withGhost Written.note

theorem tdiv_le {dividend bound : Int} {divisor : Nat} (positive : 0 < divisor)
    (below : dividend ≤ bound * divisor) : dividend.tdiv divisor ≤ bound := by
  have divisor_positive : (0 : Int) < divisor := by exact_mod_cast positive
  rcases le_total 0 dividend with nonnegative | negative
  · rw [Int.tdiv_eq_ediv_of_nonneg nonnegative]
    exact Int.ediv_le_of_le_mul divisor_positive below
  · have opposite : (-dividend).tdiv divisor = -dividend / divisor :=
      Int.tdiv_eq_ediv_of_nonneg (by omega)
    rw [Int.neg_tdiv] at opposite
    have above : -bound ≤ -dividend / divisor := by
      refine (Int.le_ediv_iff_mul_le divisor_positive).mpr ?_
      rw [neg_mul]
      omega
    omega

theorem addMs_le {instant date bound : Int} {delay : ℚ} (computed : addMs instant (.finite delay) = some date)
    (within : instant + delay ≤ (bound : ℚ)) : date ≤ bound := by
  obtain rfl := Option.some.inj computed
  refine tdiv_le (Rat.pos _) ?_
  have numerators := within
  rw [Rat.le_iff] at numerators
  simpa using numerators

def maxDelay : Int := 30000

theorem maxDelay_eq : (maxDelay : ℚ) = RetryConfig.maxDelayMs := by
  norm_num [maxDelay,RetryConfig.maxDelayMs]

theorem retry_within {engine : Engine} {attempts maxAttempts now newAttempts instant : Int}
    (retries : computeFailureOutcome engine attempts maxAttempts now = .retry (some instant) newAttempts) :
    instant ≤ now + maxDelay := by
  unfold computeFailureOutcome at retries
  dsimp only at retries
  split at retries
  next => cases retries
  next =>
    obtain ⟨date,_⟩ := FailureOutcome.retry.inj retries
    obtain ⟨delay,most,finite⟩ := retryDelayMs_int engine (attempts + 1)
    rw [finite] at date
    refine addMs_le date ?_
    push_cast
    rw [maxDelay_eq]
    linarith

/-! What every program of the system knows about the times that it writes. -/

def punctual : Protocol (Option Int) Thrown Request (Reply returningRows) where
  allows view
    | .query _ (.markFailed _ _ _ nextRetryAt _ _) => ∀ instant, nextRetryAt = some instant →
        ∃ read, view = some read ∧ instant ≤ read + maxDelay
    | _ => True
  moves before request outcome after := match request, outcome with
    | .newDate, .ok instant => after = some instant
    | _, _ => after = before

def Punctual {Value : Type} (program : Program returningRows Value) : Prop :=
  ∀ view, punctual.Follows program view (fun _ _ => True)

def Request.reschedules : Request → Bool
  | .query _ (.markFailed _ _ _ _ _ _) => true
  | _ => false

namespace Punctual

variable {A B : Type}

theorem request {request : Request} (indifferent : request.reschedules = false) :
    Punctual (Outbox.request request) := by
  intro view
  refine Protocol.Follows.call ?_ (fun _ _ _ => trivial)
  unfold punctual
  dsimp only
  split
  next => cases indifferent
  next => trivial

theorem bind {program : Program returningRows A} {f : A → Program returningRows B}
    (first : Punctual program) (continues : ∀ value, Punctual (f value)) : Punctual (program.bind f) :=
  fun view => (first view).bind (fun after value _ => continues value after) (fun _ _ _ => trivial)

theorem tryCatch {program : Program returningRows A} {handler : Thrown → Program returningRows A}
    (body : Punctual program) (handled : ∀ error, Punctual (handler error)) :
    Punctual (program.tryCatch handler) :=
  fun view => (body view).tryCatch (fun _ _ _ => trivial) (fun after error _ => handled error after)

theorem forM {Item : Type} {items : List Item} {body : Item → Program returningRows PUnit}
    (each : ∀ item, Punctual (body item)) : Punctual (items.forM body) := by
  induction items with
  | nil => exact fun _ => trivial
  | cons item rest ih => exact (each item).bind (fun _ => ih)

end Punctual

theorem newDate_read {view : Option Int} :
    punctual.Follows (Outbox.request .newDate) view (fun after outcome =>
      ∀ now, outcome = .ok now → after = some now) := by
  refine Protocol.Follows.call trivial ?_
  intro outcome after moved
  cases outcome with
  | ok now =>
    intro same equal
    obtain rfl := Except.ok.inj equal
    exact moved
  | error error => exact fun _ impossible => by cases impossible

namespace RelayService

variable (relay : RelayService) (engine : Engine)

theorem newStatusAndRetryAt_read {attempts maxAttempts now : Int} :
    punctual.Follows (newStatusAndRetryAt (computeFailureOutcome engine attempts maxAttempts now)) (some now)
      (fun after outcome => ∀ status instant, outcome = .ok (status,some instant) →
        ∃ read, after = some read ∧ instant ≤ read + maxDelay) := by
  cases decided : computeFailureOutcome engine attempts maxAttempts now with
  | deadLetter newAttempts =>
    refine newDate_read.bind ?_ (fun _ _ _ _ _ impossible => by cases impossible)
    intro after read same status instant equal
    obtain ⟨_,date⟩ := Prod.mk.inj (Except.ok.inj equal)
    obtain rfl := Option.some.inj date
    exact ⟨read,same read rfl,by unfold maxDelay; omega⟩
  | retry nextRetryAt newAttempts =>
    intro status instant equal
    obtain ⟨_,rfl⟩ := Prod.mk.inj (Except.ok.inj equal)
    exact ⟨now,rfl,retry_within decided⟩

theorem markFailedAttempt_punctual (row : ClaimedRow) (err : Thrown) :
    Punctual (relay.markFailedAttempt engine row err) := by
  intro view
  unfold markFailedAttempt
  simp only [Async.bind_eq]
  refine newDate_read.bind ?_ (fun _ _ _ => trivial)
  intro after now same
  rw [same now rfl]
  refine (newStatusAndRetryAt_read engine).bind ?_ (fun _ _ _ => trivial)
  intro after next known
  obtain ⟨status,date⟩ := next
  refine Protocol.Follows.bind (M := fun _ _ => True) ?_ ?_ (fun _ _ _ => trivial)
  · refine Protocol.Follows.call ?_ (fun _ _ _ => trivial)
    intro instant same_date
    have here : date = some instant := same_date
    exact known status instant (by rw [here])
  · intro after result _
    by_cases owned : result.length > 0
    · rw [if_pos owned]
      exact trivial
    · rw [if_neg owned]
      exact Punctual.request rfl after

theorem publishOne_punctual (row : ClaimedRow) : Punctual (relay.publishOne engine row) := by
  refine Punctual.tryCatch ?_ (fun error => relay.markFailedAttempt_punctual engine row error)
  refine (Punctual.request rfl).bind ?_
  intro channel
  refine (Punctual.request rfl).bind ?_
  intro carrier
  refine (Punctual.request rfl).bind ?_
  intro published
  cases published with
  | false => exact fun _ => trivial
  | true =>
    refine (Punctual.request rfl).bind ?_
    intro confirmed
    refine Punctual.bind ((Punctual.request rfl).bind (fun _ _ => trivial)) ?_
    intro stillOwned
    cases stillOwned with
    | true => exact fun _ => trivial
    | false => exact .request rfl

theorem runRelayTick_punctual (instanceId : String) (batchSize : Nat) :
    Punctual (relay.runRelayTick (relay.publishOne engine) instanceId batchSize) := by
  have claimed : Punctual ((relay.claimBatch instanceId batchSize).bind
      (fun rows => (.resolve (some rows) : Program returningRows (Option (List ClaimedRow))))) :=
    (Punctual.request rfl).bind (fun _ _ => trivial)
  refine Punctual.bind (claimed.tryCatch (fun _ _ => trivial)) ?_
  intro rows
  cases rows with
  | none => exact fun _ => trivial
  | some rows =>
    dsimp only
    split
    next => exact fun _ => trivial
    next => exact Punctual.forM (fun row => relay.publishOne_punctual engine row)

end RelayService

theorem Task.program_punctual (settings : Settings) (task : Task) : Punctual (task.program settings) := by
  cases task with
  | runRelayTick service instanceId batchSize =>
    exact service.relay.runRelayTick_punctual settings.engine instanceId batchSize
  | reapStaleLocks service =>
    exact Punctual.tryCatch ((Punctual.request rfl).bind (fun _ _ => trivial)) (fun _ _ => trivial)
  | replayById service id =>
    cases service with
    | messaging =>
      refine Punctual.bind ((Punctual.request rfl).bind ?_) (fun _ _ => trivial)
      intro rows
      split <;> exact fun _ => trivial
    | gateway => exact Punctual.bind ((Punctual.request rfl).bind (fun _ _ => trivial)) (fun _ _ => trivial)
  | replayAllFailed service eventType =>
    cases service <;>
      exact Punctual.bind ((Punctual.request rfl).bind (fun _ _ => trivial)) (fun _ _ => trivial)
  | assertTopology => exact Punctual.forM (fun _ => .request rfl)

def Dated (state : State × Written) : Prop :=
  ∀ service, ∀ row ∈ state.1.table service, row.nextRetryAt ≤ state.2 service row.id + maxDelay

def ReadBefore (state : State × Written) (view : Option Int) : Prop :=
  ∀ read, view = some read → read ≤ state.1.now

theorem touches_row {state : State} {service : Service} {statement : Statement} {scan : List Nat}
    {update : Update OutboxEvent OutboxEvent.id} {row : OutboxEvent}
    (means : statement.update (state.table service) state.now scan = some update)
    (member : row ∈ state.table service) :
    state.touches service statement scan row.id = true ↔ update.cond row = true := by
  unfold State.touches
  rw [means,Option.any_some,List.any_eq_true]
  constructor
  · intro touched
    obtain ⟨other,among,both⟩ := touched
    rw [Bool.and_eq_true,beq_iff_eq] at both
    exact Table.eq_of_key among member both.1 ▸ both.2
  · intro matched
    exact ⟨row,member,by simp [matched]⟩

theorem Statement.Writes.dated {now : Int} {statement : Statement} {row after : OutboxEvent}
    (writes : statement.Writes now row after) :
    (statement.reschedules = false ∧ after.nextRetryAt = row.nextRetryAt) ∨
    (statement.reschedules = true ∧ (after.nextRetryAt = now ∨ ∃ status attempts lastError id version,
      statement = .markFailed status attempts lastError (some after.nextRetryAt) id version)) := by
  cases writes with
  | claim due => exact .inl ⟨rfl,rfl⟩
  | markSent => exact .inl ⟨rfl,rfl⟩
  | markFailed => exact .inr ⟨rfl,.inr ⟨_,_,_,_,_,rfl⟩⟩
  | reap pending locked stale => exact .inl ⟨rfl,rfl⟩
  | replayOne failed => exact .inr ⟨rfl,.inl rfl⟩
  | replayFailed failed selected => exact .inr ⟨rfl,.inl rfl⟩

theorem State.serve_now {state after : State} {pid : Nat} {request : Request} {choice : Choice}
    {reply : Except Thrown (Reply returningRows request)}
    (served : state.serve pid request choice = some (reply,after)) : after.now = state.now := by
  rcases State.serve_cases served with ⟨_,_,_,_,_,rfl⟩ | ⟨now,_,_⟩
  · rfl
  · exact now

theorem Dated.serve_other {state after : State} {written : Written} (dated : Dated (state,written)) {pid : Nat}
    {request : Request} {choice : Choice} {reply : Except Thrown (Reply returningRows request)}
    (other : ∀ service statement, request ≠ .query service statement)
    (served : state.serve pid request choice = some (reply,after)) :
    Dated (after,written.note state (.performs pid request choice)) := by
  have unnoted : written.note state (.performs pid request choice) = written := by
    cases request with
    | query service statement => exact absurd rfl (other service statement)
    | _ => rfl
  obtain ⟨_,table,_⟩ := State.serve_apart other served
  rw [unnoted]
  intro service row member
  rw [table] at member
  exact dated service row member

theorem Dated.execute {state : State} {written : Written} (dated : Dated (state,written)) {pid : Nat}
    {service : Service} {statement : Statement} {choice : Choice} {update : Update OutboxEvent OutboxEvent.id}
    (means : statement.update (state.table service) state.now choice.scan = some update)
    (timely : ∀ status attempts lastError instant id version,
      statement = .markFailed status attempts lastError (some instant) id version →
      instant ≤ state.now + maxDelay) :
    Dated (state.execute pid service statement update,
      written.note state (.performs pid (.query service statement) choice)) := by
  intro other row member
  rw [State.mem_execute] at member
  by_cases here : other = service
  · subst here
    rw [if_pos rfl] at member
    obtain ⟨before,present,rfl⟩ := member
    have touched := touches_row means present
    have bound := dated other before present
    rw [update.key_write]
    simp only [Written.note,true_and]
    by_cases matched : update.cond before = true
    · rw [touched.mpr matched,Update.write_of matched]
      rcases (Statement.write_cases means present matched).dated with
        ⟨keeps,same⟩ | ⟨anew,now | ⟨status,attempts,lastError,id,version,failed⟩⟩
      · rw [keeps,same]
        simpa using bound
      · rw [anew,now,if_pos ⟨rfl,rfl⟩]
        unfold maxDelay
        omega
      · rw [anew,if_pos ⟨rfl,rfl⟩]
        exact timely _ _ _ _ _ _ failed
    · rw [Update.write_of_not matched,if_neg (fun both => matched (touched.mp both.2))]
      exact bound
  · rw [if_neg here] at member
    have unnoted : written.note state (.performs pid (.query service statement) choice) other row.id =
        written other row.id := by simp [Written.note,here]
    have kept : row.nextRetryAt ≤
        written.note state (.performs pid (.query service statement) choice) other row.id + maxDelay := by
      rw [unnoted]
      exact dated other row member
    exact kept

theorem Dated.external {state after : State} {written : Written} (dated : Dated (state,written))
    {event : External} (agree : ClocksAgree state (.external event))
    (happened : state.external event = some after) : Dated (after,written.note state (.external event)) := by
  cases event with
  | elapse ms =>
    obtain rfl := Option.some.inj happened
    exact dated
  | insert service recorded nextRetryAt =>
    obtain ⟨fresh,rfl⟩ := State.external_insert happened
    intro other row member
    rcases (State.mem_insert fresh).mp member with old | ⟨here,new⟩
    · have bound := dated other row old
      have apart : ¬ (other = service ∧ row.id = recorded.id) := by
        intro same
        obtain ⟨rfl,same_id⟩ := same
        exact fresh (same_id ▸ List.mem_map_of_mem old)
      simp only [Written.note,if_neg apart]
      exact bound
    · subst here new
      have past : nextRetryAt ≤ state.now := of_decide_eq_true agree
      have same_id : (recorded.row nextRetryAt).id = recorded.id := rfl
      simp only [Written.note,same_id,and_self,if_true]
      change nextRetryAt ≤ state.now + maxDelay
      unfold maxDelay
      omega
  | route index =>
    obtain ⟨_,_,_,rfl⟩ := State.settlePublish_eq happened
    exact dated
  | reject index =>
    obtain ⟨_,_,_,rfl⟩ := State.settlePublish_eq happened
    exact dated

theorem State.external_now {state after : State} {event : External}
    (happened : state.external event = some after) : state.now ≤ after.now := by
  cases event with
  | elapse ms =>
    obtain rfl := Option.some.inj happened
    change state.now ≤ state.now + ms
    omega
  | insert service recorded nextRetryAt =>
    obtain ⟨_,rfl⟩ := State.external_insert happened
    exact le_refl _
  | route index =>
    obtain ⟨_,_,_,rfl⟩ := State.settlePublish_eq happened
    exact le_refl _
  | reject index =>
    obtain ⟨_,_,_,rfl⟩ := State.settlePublish_eq happened
    exact le_refl _

/-- What a program has read of the clock lies in the past, whatever it is answered. -/
theorem read_before {state after : State × Written} {view : Option Int} {pid : Nat} {request : Request}
    {answer : Answer Choice Thrown} {choice : Choice} {reply outcome : Except Thrown (Reply returningRows request)}
    (known : ReadBefore state view) (later : state.1.now ≤ after.1.now)
    (agree : ClocksAgree state.1 (.performs pid request answer)) (chosen : answer.choice? = some choice)
    (served : state.1.serve pid request choice = some (reply,after.1))
    (kept : outcome = reply ∨ ∃ error : Thrown, request.fails = true ∧ outcome = .error error) :
    ∃ next, punctual.moves view request outcome next ∧ ReadBefore after next := by
  have unmoved : ReadBefore after view := fun read same => (known read same).trans later
  cases request with
  | newDate =>
    rcases kept with same | ⟨error,fails,_⟩
    · subst same
      obtain ⟨replied,_⟩ := Prod.mk.inj (Option.some.inj served)
      subst replied
      refine ⟨some choice.instant,rfl,?_⟩
      intro read same
      obtain rfl := Option.some.inj same
      have now : choice.instant = state.1.now := by
        simpa [ClocksAgree,clocksAgree,chosen] using agree
      rw [now]
      exact later
    · cases fails
  | query _ _ | getChannel _ | inject _ | publish _ _ | waitForConfirms _ | fencedPublish _ | declare _ =>
    exact ⟨view,rfl,unmoved⟩

/-- Every row is due at most one delay after its last write, if the clocks agree. -/
theorem Dated.sound (settings : Settings) :
    (datedWorld settings).Sound punctual (fun _ _ => True) (World.Unghosted ClocksAgree) (fun _ => Dated)
      (fun _ => ReadBefore) where
  starts fresh state task program after dated _ started := by
    obtain ⟨rfl,rfl⟩ := Prod.mk.inj (Option.some.inj started)
    exact ⟨dated,⟨none,(fun _ impossible => by cases impossible),task.program_punctual settings none⟩,
      fun _ _ _ known => known⟩
  serves fresh state pid view request answer choice reply after dated _ known allowed agree chosen served := by
    obtain ⟨performed,noted⟩ := World.withGhost_serve served
    obtain ⟨after,written⟩ := after
    subst noted
    have now := State.serve_now performed
    refine ⟨?_,?_,?_⟩
    · cases request with
      | query service statement =>
        obtain ⟨update,means,_,same⟩ := State.serve_query performed
        have here : after = state.1.execute pid service statement update := same
        subst here
        refine dated.execute means ?_
        intro status attempts lastError instant id version failed
        subst failed
        obtain ⟨read,same_view,bound⟩ := allowed instant rfl
        have past := known read same_view
        omega
      | getChannel _ | inject _ | publish _ _ | waitForConfirms _ | newDate | fencedPublish _ | declare _ =>
        exact dated.serve_other (fun _ _ => by simp) performed
    · intro outcome kept
      exact read_before known now.ge agree chosen performed kept
    · intro other _ view known read same
      exact (known read same).trans now.ge
  refuses fresh state pid view request error dated known allowed fails := by
    cases request with
    | newDate => cases fails
    | query _ _ | getChannel _ | inject _ | publish _ _ | waitForConfirms _ | fencedPublish _ | declare _ =>
      exact ⟨view,rfl,known⟩
  crashes _ _ _ dated _ := ⟨dated,fun _ _ _ known => known⟩
  externals fresh state event after dated agree happened := by
    obtain ⟨next,performed,rfl⟩ := Option.map_eq_some_iff.mp happened
    refine ⟨dated.external agree performed,?_⟩
    intro pid view known read same
    exact (known read same).trans (State.external_now performed)

/-! The claim after a reap. -/

/-- Answers requests one after the other while nothing else happens. The claim visits the rows in
the order of `scan`. -/
def State.undisturbed (scan : List Nat) (state : State) (request : Request) :
    Except Thrown (Reply returningRows request) × State :=
  (state.serve 0 request { scan }).getD (.error (.ofMessage "Connection terminated"),state)

def eligible (table : OutboxTable) (now : Int) : List OutboxEvent := table.rows.filter (OutboxEvent.due now)

theorem mem_candidates_of_due {table : OutboxTable} {now : Int} {scan : List Nat} {limit : Nat}
    {row : OutboxEvent} (member : row ∈ table) (due : row.due now = true) (visited : row.id ∈ scan)
    (enough : (eligible table now).length ≤ limit) : row ∈ candidates table now scan limit := by
  have found : table.find? row.id = some row := Table.find?_eq_some.mpr ⟨member,rfl⟩
  have distinct : ((scan.dedup.filterMap table.find?).filter (OutboxEvent.due now)).Nodup := by
    refine List.Nodup.filter _ ((List.nodup_dedup scan).filterMap ?_)
    intro left right chosen first second
    exact (Table.find?_eq_some.mp first).2.symm.trans (Table.find?_eq_some.mp second).2
  have within : (scan.dedup.filterMap table.find?).filter (OutboxEvent.due now) ⊆ eligible table now := by
    intro other among
    obtain ⟨listed,other_due⟩ := List.mem_filter.mp among
    obtain ⟨id,_,other_found⟩ := List.mem_filterMap.mp listed
    exact List.mem_filter.mpr ⟨(Table.find?_eq_some.mp other_found).1,other_due⟩
  have few := (List.subperm_of_subset distinct within).length_le
  unfold candidates
  rw [List.take_of_length_le]
  · rw [List.mem_insertionSort,List.mem_filter,List.mem_filterMap]
    exact ⟨⟨row.id,List.mem_dedup.mpr visited,found⟩,due⟩
  · rw [List.length_insertionSort]
    exact few.trans enough

def OutboxEvent.reclaimed (row : OutboxEvent) : ClaimedRow :=
  { row.claimed with lockVersion := row.lockVersion + 1 }

/-- A reap changes nothing that the claim looks at or returns, apart from the lock. -/
theorem reap_write {table : OutboxTable} {now ttlMs : Int} {scan : List Nat}
    {update : Update OutboxEvent OutboxEvent.id} (means : (Statement.reap ttlMs).update table now scan = some update)
    (row : OutboxEvent) : (update.write row).due now = row.due now ∧
      (update.write row).reclaimed = row.reclaimed := by
  obtain rfl := Option.some.inj means
  unfold Update.write
  split <;> exact ⟨rfl,rfl⟩

theorem reap_eligible {table : OutboxTable} {now ttlMs : Int} {scan : List Nat}
    {update : Update OutboxEvent OutboxEvent.id} (means : (Statement.reap ttlMs).update table now scan = some update) :
    (eligible (table.apply update) now).length = (eligible table now).length := by
  unfold eligible Table.apply
  dsimp only
  rw [List.filter_map,List.length_map]
  congr 1
  refine List.filter_congr ?_
  intro row _
  exact (reap_write means row).1

theorem claim_returns {state : State} {service : Service} {row : OutboxEvent} {instanceId : String}
    {batchSize : Nat} {scan : List Nat} (member : row ∈ state.table service) (due : row.due state.now = true)
    (visited : row.id ∈ scan) (enough : (eligible (state.table service) state.now).length ≤ batchSize) :
    ∃ rows after, state.undisturbed scan (.query service (.claim instanceId batchSize)) = (.ok rows,after) ∧
      row.reclaimed ∈ rows := by
  refine ⟨_,_,rfl,?_⟩
  have chosen := mem_candidates_of_due member due visited enough
  have matched : decide (row.id ∈ (candidates (state.table service) state.now scan batchSize).map OutboxEvent.id) =
      true := decide_eq_true (List.mem_map_of_mem chosen)
  exact List.mem_map_of_mem (Table.mem_returning.mpr ⟨row,member,matched,rfl⟩)

theorem reap_then_claim (settings : Settings) {state : State} {service : Service} {row : OutboxEvent}
    {instanceId : String} {batchSize : Nat} {scan : List Nat} (member : row ∈ state.table service)
    (due : row.due state.now = true) (visited : row.id ∈ scan)
    (enough : (eligible (state.table service) state.now).length ≤ batchSize) :
    ∃ rows after, ((service.relay.reapStaleLocks (settings.lockTtlMs service)).bind (fun _ =>
        service.relay.claimBatch instanceId batchSize)).evaluate (State.undisturbed scan) state =
      (.ok rows,after) ∧ row.reclaimed ∈ rows := by
  obtain ⟨update,means⟩ : ∃ update, (Statement.reap (settings.lockTtlMs service)).update (state.table service)
      state.now scan = some update := ⟨_,rfl⟩
  let reaped := state.execute 0 service (.reap (settings.lockTtlMs service)) update
  have reaps : (service.relay.reapStaleLocks (settings.lockTtlMs service)).evaluate (State.undisturbed scan)
      state = (.ok (),reaped) := by
    obtain rfl := Option.some.inj means
    cases service <;> rfl
  have table : reaped.table service = (state.table service).apply update := by
    simp [reaped,State.execute]
  have same := reap_write means row
  have kept : update.write row ∈ reaped.table service := by
    rw [table]
    exact Table.mem_apply.mpr ⟨row,member,rfl⟩
  have fits : (eligible (reaped.table service) reaped.now).length ≤ batchSize := by
    rw [table]
    exact (reap_eligible means).trans_le enough
  obtain ⟨rows,after,claimed,returned⟩ := @claim_returns reaped service _ instanceId batchSize scan kept (same.1.trans due)
    (by rw [update.key_write]; exact visited) fits
  refine ⟨rows,after,?_,same.2 ▸ returned⟩
  rw [Async.evaluate_bind,reaps]
  dsimp only
  unfold RelayService.claimBatch query
  rw [Service.relay_service,Async.evaluate_call]
  exact claimed

/-- In every reachable state of the tables, a pending row is due at most one maximal delay after its
last insert, failure or replay, and from then on a reap and a claim that is large enough return it. -/
theorem pending_row_claimable (settings : Settings) (now : Int) (broker : Amqp.Topology)
    {pool : Pool (State × Written) Thrown Request (Reply returningRows)}
    (reached : (datedWorld settings).Reach (World.Unghosted ClocksAgree)
      (.initial now (fun _ => Table.empty) broker,fun _ _ => now) pool) :
    ∀ service, ∀ row ∈ pool.shared.1.table service, row.status = .pending →
      ((row.nextRetryAt : Int) : ℚ) ≤ pool.shared.2 service row.id + RetryConfig.maxDelayMs ∧
      ∀ (ms : Nat) (instanceId : String) (batchSize : Nat) (scan : List Nat),
        let later : State := { pool.shared.1 with now := pool.shared.1.now + ms }
        row.nextRetryAt ≤ later.now → (eligible (later.table service) later.now).length ≤ batchSize →
        (∀ other ∈ later.table service, other.id ∈ scan) →
        ∃ rows after, ((service.relay.reapStaleLocks (settings.lockTtlMs service)).bind (fun _ =>
            service.relay.claimBatch instanceId batchSize)).evaluate (State.undisturbed scan) later =
          (.ok rows,after) ∧ row.reclaimed ∈ rows := by
  have first : Dated (.initial now (fun _ => Table.empty) broker,fun _ _ => now) := by
    intro service row member
    exact absurd member (Table.not_mem_empty row)
  have dated := World.reach_inv (Dated.sound settings) first reached
  intro service row member pending
  constructor
  · rw [← maxDelay_eq]
    exact_mod_cast dated service row member
  · intro ms instanceId batchSize scan later past enough visited
    have due : row.due later.now = true := by simp [OutboxEvent.due,pending,past]
    exact reap_then_claim settings member due (visited row member) enough

/-- An instance crashes after it has claimed a row. -/
def abandonedRow : List RelayAction := [
  .external (.insert .messaging sampleCommand 0),
  .start (.runRelayTick .messaging "gone" 25),
  .resume 0 (.served { scan := [1] }),
  .crash 0]

set_option maxRecDepth 4000 in
theorem abandoned_row_claimable : ∃ (state : State) (row : OutboxEvent), row ∈ state.table .messaging ∧
    row.lockedBy = some "gone" ∧
    ∃ rows after, ((Service.messaging.relay.reapStaleLocks (sampleSettings.lockTtlMs .messaging)).bind (fun _ =>
        Service.messaging.relay.claimBatch "next" 25)).evaluate (State.undisturbed [1]) state = (.ok rows,after) ∧
      row.reclaimed ∈ rows := by
  let ran := Machine.run (datedWorld sampleSettings).step (World.empty (sampleState,fun _ _ => 0)) abandonedRow
  let pool := ran.get (by decide)
  have reached : (datedWorld sampleSettings).Reach (World.Unghosted ClocksAgree) (sampleState,fun _ _ => 0) pool :=
    Machine.run_reaches (Option.some_get _).symm (by decide)
  let row : OutboxEvent := { sampleCommand.row 0 with lockedAt := some 0, lockedBy := some "gone", lockVersion := 1 }
  have member : row ∈ pool.shared.1.table .messaging := List.mem_cons_self
  have ids : (pool.shared.1.table .messaging).rows.map OutboxEvent.id = [1] := by decide
  have few : (eligible (pool.shared.1.table .messaging) (pool.shared.1.now + (61000 : Nat))).length ≤ 25 := by decide
  have past : row.nextRetryAt ≤ pool.shared.1.now + (61000 : Nat) := by decide
  have visited : ∀ other ∈ pool.shared.1.table .messaging, other.id ∈ [1] := by
    intro other among
    exact ids ▸ List.mem_map_of_mem among
  have claimable := (pending_row_claimable sampleSettings 0 (declaredPrefix 13) reached .messaging row member rfl).2
    61000 "next" 25 [1] past few visited
  exact ⟨{ pool.shared.1 with now := pool.shared.1.now + (61000 : Nat) },row,member,rfl,claimable⟩

end MessagingPlatform.Outbox
