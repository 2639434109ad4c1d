import MessagingPlatform.Outbox.DriverContract
import MessagingPlatform.Outbox.Reaped
import MessagingPlatform.Outbox.WellFormed

/-! How often and when a row that cannot be published is tried. The attempts of a row count the
failures recorded since its insert or last replay, each failure puts the row off by the delay of its
number, and the failure that uses up the budget is the last one. -/
namespace MessagingPlatform.Outbox
open Driver

/-! A tick of a relay in which every publish breaks down. -/

/-- How a publish breaks down: there is no channel, the channel throws, its buffer is full, or the
broker does not confirm. -/
inductive Breakdown where
  | noChannel (error : Thrown)
  | thrown (error : Thrown)
  | backPressured
  | unconfirmed (error : Thrown)

/-- Answers requests one after the other while publishes break down and nothing else fails. -/
def State.breaking {driver : Driver} (breakdown : Breakdown) (choice : Choice) (state : State) (request : Request) :
    Except Thrown (Reply driver request) × State :=
  match breakdown, request with
  | .noChannel error, .getChannel _ => (.error error,state)
  | .thrown error, .publish _ _ => (.error error,state)
  | .backPressured, .publish channel publication =>
      (.ok false,{ state with publishes := state.publishes ++ [⟨channel,publication,.inFlight⟩] })
  | .unconfirmed error, .waitForConfirms _ => (.error error,state)
  | _, request => (state.serve 0 request choice).getD (.error (.ofMessage "Connection terminated"),state)

structure FailedOnce (row : OutboxEvent) (time : Int) (failed : OutboxEvent) : Prop where
  id : failed.id = row.id
  budget : failed.maxAttempts = row.maxAttempts
  attempts : failed.attempts = row.attempts + 1
  exhausted : failed.attempts = row.maxAttempts → failed.status = .failed
  retried : failed.attempts < row.maxAttempts → failed.status = .pending ∧
    failed.nextRetryAt = time + backoffMs failed.attempts.toNat

namespace State

variable (breakdown : Breakdown) (choice : Choice) (state : State)

theorem breaking_newDate : (request .newDate : Program returningRows Int).evaluate
    (State.breaking breakdown choice) state = (.ok choice.instant,state) := by
  cases breakdown <;> rfl

theorem breaking_query {service : Service} {statement : Statement} {update : Update OutboxEvent OutboxEvent.id}
    (means : statement.update (state.table service) state.now choice.scan = some update) :
    (query service statement : Program returningRows _).evaluate (State.breaking breakdown choice) state =
      (.ok (statement.returned ((state.table service).returning update)),
        state.execute 0 service statement update) := by
  have served : state.serve 0 (.query service statement) choice = (some (.ok
        (statement.returned ((state.table service).returning update)),state.execute 0 service statement update) :
      Option (Except Thrown (Reply returningRows _) × State)) := congrArg (Option.map _) means
  have answered : (state.breaking breakdown choice (.query service statement) :
      Except Thrown (Reply returningRows _) × State) =
      (state.serve 0 (.query service statement) choice).getD (.error (.ofMessage "Connection terminated"),state) := by
    cases breakdown <;> rfl
  unfold query
  rw [Async.evaluate_call,answered,served]
  rfl

end State

namespace RelayService

variable (relay : RelayService) (engine : Engine) (breakdown : Breakdown) (choice : Choice)

theorem publishOne_breaks (row : ClaimedRow) (state : State) (accepts : choice.accepted = true) :
    ∃ error broken, broken.table = state.table ∧ broken.now = state.now ∧
      (relay.publishOne engine row : Program returningRows Unit).evaluate (State.breaking breakdown choice) state =
        (relay.markFailedAttempt engine row error : Program returningRows Unit).evaluate
          (State.breaking breakdown choice) broken := by
  obtain ⟨scan,channel,accepted,carrier,instant⟩ := choice
  have accepted : accepted = true := accepts
  subst accepted
  cases breakdown with
  | noChannel error => exact ⟨error,state,rfl,rfl,rfl⟩
  | thrown error => exact ⟨error,state,rfl,rfl,rfl⟩
  | backPressured =>
    let written : Published := ⟨channel,relay.publication row carrier,.inFlight⟩
    exact ⟨relay.backPressure row,{ state with publishes := state.publishes ++ [written] },rfl,rfl,rfl⟩
  | unconfirmed error =>
    let written : Published := ⟨channel,relay.publication row carrier,.inFlight⟩
    exact ⟨error,{ state with publishes := state.publishes ++ [written] },rfl,rfl,rfl⟩

structure Puts (row : ClaimedRow) (time : Int) (status : OutboxStatus) (nextRetryAt : Int) : Prop where
  exhausted : row.maxAttempts ≤ row.attempts + 1 → status = .failed
  retried : row.attempts + 1 < row.maxAttempts → status = .pending ∧
    nextRetryAt = time + backoffMs (row.attempts + 1).toNat

theorem newStatusAndRetryAt_breaks {row : ClaimedRow} (nonnegative : 0 ≤ row.attempts) (state : State) :
    ∃ status nextRetryAt, Puts row choice.instant status nextRetryAt ∧
      (newStatusAndRetryAt (computeFailureOutcome engine row.attempts row.maxAttempts choice.instant) :
        Program returningRows _).evaluate (State.breaking breakdown choice) state =
          (.ok (status,some nextRetryAt),state) := by
  obtain ⟨attempts,counted⟩ := Int.eq_ofNat_of_zero_le nonnegative
  by_cases spent : row.attempts + 1 ≥ row.maxAttempts
  · refine ⟨.failed,choice.instant,⟨fun _ => rfl,fun within => absurd within (by omega)⟩,?_⟩
    rw [computeFailureOutcome_spent spent,newStatusAndRetryAt,Async.evaluate_bind,
      State.breaking_newDate]
    rfl
  · have number : (row.attempts + 1).toNat = attempts + 1 := by omega
    refine ⟨.pending,choice.instant + backoffMs (attempts + 1),⟨fun most => absurd most spent,?_⟩,?_⟩
    · intro within
      rw [number]
      exact ⟨rfl,rfl⟩
    · have whole : ((row.attempts + 1 : Int) : ℚ) = ((attempts + 1 : Nat) : ℚ) := by
        rw [counted]
        push_cast
        rfl
      rw [computeFailureOutcome_left spent,newStatusAndRetryAt,whole,
        addMs_backoff engine _ (Nat.le_add_left 1 attempts)]
      rfl

theorem Puts.failedOnce {row : ClaimedRow} {time now : Int} {status : OutboxStatus} {nextRetryAt : Int}
    (puts : Puts row time status nextRetryAt) {message : String} {table : OutboxTable}
    {scan : List Nat} {update : Update OutboxEvent OutboxEvent.id}
    (means : Statement.update table now scan
      (.markFailed status (row.attempts + 1) message (some nextRetryAt) row.id row.lockVersion) = some update)
    {stored : OutboxEvent} (sameAttempts : stored.attempts = row.attempts)
    (sameBudget : stored.maxAttempts = row.maxAttempts) : FailedOnce stored time (update.set stored) := by
  obtain rfl := Option.some.inj means
  refine ⟨rfl,rfl,congrArg (fun count => count + 1) sameAttempts.symm,?_,?_⟩
  · intro most
    have spent : row.attempts + 1 = stored.maxAttempts := most
    exact puts.exhausted (by omega)
  · intro within
    have left : row.attempts + 1 < stored.maxAttempts := within
    exact puts.retried (by omega)

theorem markFailedAttempt_breaks {row : ClaimedRow} (nonnegative : 0 ≤ row.attempts) (err : Thrown) (state : State) :
    ∃ statement update after, Statement.update (state.table relay.service) state.now choice.scan statement =
        some update ∧
      statement.settles = some (row.id,row.lockVersion) ∧
      (∀ stored, stored.attempts = row.attempts → stored.maxAttempts = row.maxAttempts →
        FailedOnce stored choice.instant (update.set stored)) ∧
      (relay.markFailedAttempt engine row err : Program returningRows Unit).evaluate
        (State.breaking breakdown choice) state = (.ok (),after) ∧
      after.now = state.now ∧ after.table = (state.execute 0 relay.service statement update).table := by
  obtain ⟨status,nextRetryAt,puts,scheduled⟩ := newStatusAndRetryAt_breaks engine breakdown choice nonnegative state
  let statement : Statement :=
    .markFailed status (row.attempts + 1) err.message (some nextRetryAt) row.id row.lockVersion
  obtain ⟨update,means⟩ : ∃ update, statement.update (state.table relay.service) state.now choice.scan =
      some update := ⟨_,rfl⟩
  have recorded : ∃ after, (relay.markFailedAttempt engine row err : Program returningRows Unit).evaluate
      (State.breaking breakdown choice) state = (.ok (),after) ∧ after.now = state.now ∧
      after.table = (state.execute 0 relay.service statement update).table := by
    unfold markFailedAttempt
    simp only [Async.bind_eq]
    rw [Async.evaluate_bind,State.breaking_newDate]
    dsimp only
    rw [computeFailureOutcome_newAttempts,Async.evaluate_bind,scheduled]
    dsimp only
    rw [Async.evaluate_bind,State.breaking_query breakdown choice state means]
    dsimp only
    split
    next => exact ⟨_,rfl,rfl,rfl⟩
    next =>
      let executed := state.execute 0 relay.service statement update
      let counted := Function.update executed.fenced relay.service (executed.fenced relay.service + 1)
      refine ⟨{ executed with fenced := counted },?_,rfl,rfl⟩
      cases breakdown <;> rfl
  obtain ⟨after,evaluated,now,table⟩ := recorded
  exact ⟨statement,update,after,means,rfl,fun _ => puts.failedOnce means,evaluated,now,table⟩

theorem forM_breaks (accepts : choice.accepted = true) {rows : List ClaimedRow}
    (nonnegative : ∀ row ∈ rows, 0 ≤ row.attempts) (distinct : (rows.map ClaimedRow.id).Nodup) (state : State) :
    ∃ after, (rows.forM (relay.publishOne engine) : Program returningRows Unit).evaluate
        (State.breaking breakdown choice) state = (.ok (),after) ∧
      ∀ stored ∈ state.table relay.service,
        (stored.id ∉ rows.map ClaimedRow.id → stored ∈ after.table relay.service) ∧
        (stored.claimed ∈ rows → ∃ failed ∈ after.table relay.service, FailedOnce stored choice.instant failed) := by
  induction rows generalizing state with
  | nil => exact ⟨state,rfl,fun stored member => ⟨fun _ => member,fun impossible => by cases impossible⟩⟩
  | cons row rest ih =>
    obtain ⟨new,distinct⟩ := List.nodup_cons.mp distinct
    obtain ⟨error,broken,table,now,tried⟩ := relay.publishOne_breaks engine breakdown choice row state accepts
    obtain ⟨statement,update,next,means,settles,fails,recorded,_,written⟩ :=
      relay.markFailedAttempt_breaks engine breakdown choice (nonnegative row List.mem_cons_self) error broken
    obtain ⟨after,evaluated,others⟩ :=
      ih (fun other member => nonnegative other (List.mem_cons_of_mem _ member)) distinct next
    have first : (relay.publishOne engine row : Program returningRows Unit).evaluate
        (State.breaking breakdown choice) state = (.ok (),next) :=
      tried.trans recorded
    -- what the first failure makes of a row of the table
    have wrote : ∀ stored ∈ state.table relay.service, update.write stored ∈ next.table relay.service := by
      intro stored member
      rw [written,State.mem_execute,if_pos rfl,table]
      exact ⟨stored,member,rfl⟩
    have spared : ∀ stored ∈ state.table relay.service, stored.id ≠ row.id → update.write stored = stored := by
      intro stored member other
      apply Update.write_of_not
      intro matched
      exact other (settles_cond means settles (table ▸ member) matched).1
    refine ⟨after,?_,?_⟩
    · rw [Async.evaluate_forM_cons,first]
      exact evaluated
    · intro stored member
      have present := wrote stored member
      constructor
      · intro outside
        rw [List.map_cons,List.mem_cons,not_or] at outside
        rw [spared stored member outside.1] at present
        exact (others stored present).1 outside.2
      · intro claimed
        rcases List.mem_cons.mp claimed with same | later
        · subst same
          have matched : update.cond stored = true := settles_matches means settles
          have failed := fails stored rfl rfl
          rw [Update.write_of matched] at present
          have same_id : (update.set stored).id = stored.id := failed.id
          exact ⟨_,(others _ present).1 (same_id ▸ new),failed⟩
        · have other : stored.id ≠ row.id := by
            intro same
            exact new (same ▸ List.mem_map_of_mem later)
          rw [spared stored member other] at present
          exact (others stored present).2 later

theorem runRelayTick_breaks (accepts : choice.accepted = true) (instanceId : String) {batchSize : Nat} {state : State}
    (nonnegative : ∀ row ∈ state.table relay.service, 0 ≤ row.attempts)
    (enough : (eligible (state.table relay.service) state.now).length ≤ batchSize)
    (visited : ∀ row ∈ state.table relay.service, row.id ∈ choice.scan)
    {row : OutboxEvent} (member : row ∈ state.table relay.service) (due : row.due state.now = true) :
    ∃ after, (relay.runRelayTick (relay.publishElement engine) instanceId batchSize :
        Program returningRows Unit).evaluate (State.breaking breakdown choice) state = (.ok (),after) ∧
      ∃ failed ∈ after.table relay.service, FailedOnce row choice.instant failed := by
  obtain ⟨update,means⟩ : ∃ update, (Statement.claim instanceId batchSize).update (state.table relay.service)
      state.now choice.scan = some update := ⟨_,rfl⟩
  let claimed := state.execute 0 relay.service (.claim instanceId batchSize) update
  let rows : List ClaimedRow := ((state.table relay.service).returning update).map OutboxEvent.claimed
  have claims : (relay.claimBatch instanceId batchSize : Program returningRows _).evaluate
      (State.breaking breakdown choice) state = (.ok rows,claimed) := State.breaking_query breakdown choice state means
  have counted : ∀ other ∈ rows, 0 ≤ other.attempts := by
    intro other among
    obtain ⟨returned,member,rfl⟩ := List.mem_map.mp among
    obtain ⟨before,present,_,same⟩ := Table.mem_returning.mp member
    have kept : returned.attempts = before.attempts := by
      obtain rfl := Option.some.inj means
      rw [same]
    have bound := nonnegative before present
    rw [← kept] at bound
    exact bound
  have distinct : (rows.map ClaimedRow.id).Nodup := State.claim_distinct
  obtain ⟨after,evaluated,outcomes⟩ := relay.forM_breaks engine breakdown choice accepts counted distinct claimed
  -- the row as the claim leaves it
  have chosen := mem_candidates_of_due member due (visited row member) enough
  have matched : update.cond row = true := by
    obtain rfl := Option.some.inj means
    exact decide_eq_true (List.mem_map_of_mem chosen)
  have returned : update.set row ∈ (state.table relay.service).returning update :=
    Table.mem_returning.mpr ⟨row,member,matched,rfl⟩
  obtain ⟨failed,present,once⟩ := (outcomes _ (returned_mem returned)).2 (List.mem_map_of_mem returned)
  have nonempty : rows.length ≠ 0 := by
    intro nothing
    exact absurd (List.eq_nil_of_length_eq_zero nothing) (List.ne_nil_of_mem (List.mem_map_of_mem returned))
  refine ⟨after,?_,failed,present,?_⟩
  · unfold runRelayTick relayTick
    simp only [Async.bind_eq]
    rw [Async.evaluate_bind,Async.evaluate_tryCatch,Async.evaluate_bind,claims]
    simp only [Async.evaluate_resolve]
    rw [if_neg nonempty]
    exact evaluated
  · obtain rfl := Option.some.inj means
    exact ⟨once.id,once.budget,once.attempts,once.exhausted,once.retried⟩

end RelayService

structure OutboxEvent.FollowsLaw (row : OutboxEvent) (failures : List Int) (table : OutboxTable) : Prop where
  attempts : row.attempts = failures.length
  budget : (failures.length : Int) ≤ row.maxAttempts
  exhausted : row.status = .failed ↔ (failures.length : Int) = row.maxAttempts
  pending : row.status = .pending ↔ (failures.length : Int) < row.maxAttempts
  scheduled : ∀ time, failures.getLast? = some time → (failures.length : Int) < row.maxAttempts →
    row.nextRetryAt = time + backoffMs failures.length ∧ time < row.nextRetryAt ∧
    ∀ now scan limit, now < row.nextRetryAt → row ∉ candidates table now scan limit

theorem OutboxEvent.Lawful.followsLaw {row : OutboxEvent} {failures : List Int} (lawful : row.Lawful failures)
    (unsent : row.status ≠ .sent) (table : OutboxTable) : row.FollowsLaw failures table := by
  obtain ⟨wellFormed,_,counted,scheduled⟩ := lawful
  have within := wellFormed.counted.2
  have pending := wellFormed.pending
  have exhausted := wellFormed.exhausted
  rw [counted] at within pending exhausted scheduled
  refine ⟨counted,within,?_,?_,?_⟩
  · constructor
    · exact exhausted
    · intro spent
      cases status : row.status with
      | pending => have left := pending status; omega
      | sent => exact absurd status unsent
      | failed => rfl
  · constructor
    · exact pending
    · intro left
      cases status : row.status with
      | pending => rfl
      | sent => exact absurd status unsent
      | failed => have spent := exhausted status; omega
  · intro time last left
    have date := scheduled time last left
    have delay := (backoffMs_bounds failures.length).1
    refine ⟨date,by omega,?_⟩
    intro now scan limit early chosen
    have due := (mem_candidates chosen).2
    simp only [OutboxEvent.due,Bool.and_eq_true,decide_eq_true_eq] at due
    omega

/-- What `dataSource.query` resolves to for an UPDATE … RETURNING: the rows, as the services take it, or
the pair of the rows and their number. -/
inductive ResultShape where
  | rows
  | pair
deriving DecidableEq

def ResultShape.driver : ResultShape → Driver
  | .rows => .returningRows
  | .pair => .pair

/-- A tick of the row's service in which every publish breaks down completes and records one failure
of the row. -/
def OutboxEvent.FailsNext (row : OutboxEvent) (driver : Driver) (engine : Engine) (service : Service) (later : State)
    (breakdown : Breakdown) (choice : Choice) (instanceId : String) (batchSize : Nat) : Prop :=
  ∃ after, (service.relay.runRelayTick (service.relay.publishElement engine) instanceId batchSize :
      Program driver Unit).evaluate (State.breaking breakdown choice) later = (.ok (),after) ∧
    ∃ failed ∈ after.table service, FailedOnce row choice.instant failed

/-- In every reachable state, a row that is not sent has as many attempts as failures were recorded
since its insert or last replay. It is failed once they use up its budget and not before, and until
then it is pending and put off by the delay of its last failure, which grows from two to thirty
seconds. A tick in which every publish breaks down adds one failure to every row that is due. -/
def BackoffLaw (driver : Driver) (settings : Settings) : Prop :=
  (∀ k, 2000 ≤ backoffMs k ∧ backoffMs k ≤ 30000 ∧ backoffMs k ≤ backoffMs (k + 1)) ∧
  ∀ now broker (pool : Pool (State × Journal) Thrown Request (Reply driver)),
    (journaledWorld driver settings).Reach (World.Unghosted Budgeted)
      (.initial now (fun _ => Table.empty) broker,.blank) pool →
    ∀ service, ∀ row ∈ pool.shared.1.table service, row.status ≠ .sent →
      row.FollowsLaw (pool.shared.2.failures service row.id) (pool.shared.1.table service) ∧
      ∀ (ms : Nat) (breakdown : Breakdown) (choice : Choice) (instanceId : String) (batchSize : Nat),
        let later : State := { pool.shared.1 with now := pool.shared.1.now + ms }
        choice.accepted = true → row.due later.now = true →
        (eligible (later.table service) later.now).length ≤ batchSize →
        (∀ other ∈ later.table service, other.id ∈ choice.scan) →
        row.FailsNext driver settings.engine service later breakdown choice instanceId batchSize

theorem backoffLaw_rows (settings : Settings) : BackoffLaw returningRows settings := by
  refine ⟨?_,?_⟩
  · intro k
    have bounds := backoffMs_bounds k
    exact ⟨bounds.1,bounds.2,backoffMs_mono (Nat.le_succ k)⟩
  · intro now broker pool reached service row member unsent
    have journaled := World.reach_inv (Journaled.sound settings) (Journaled.initial now broker) reached
    refine ⟨(journaled.lawful service row member).followsLaw unsent _,?_⟩
    intro ms breakdown choice instanceId batchSize later accepts due enough visited
    have nonnegative : ∀ other ∈ later.table service, 0 ≤ other.attempts :=
      fun other among => (journaled.lawful service other among).wellFormed.counted.1
    have tick := @RelayService.runRelayTick_breaks service.relay settings.engine breakdown choice accepts instanceId
      batchSize later
    rw [Service.relay_service] at tick
    exact tick nonnegative enough visited member due

/-- Under the pair, a tick hands no row to `publishOne`, and the failure of what it hands over cannot be
recorded. -/
theorem RelayService.runRelayTick_pair (relay : RelayService) (engine : Engine) (breakdown : Breakdown)
    (choice : Choice) (instanceId : String) (batchSize : Nat) (state : State) : ∃ error,
    ((relay.runRelayTick (relay.publishElement engine) instanceId batchSize : Program .pair Unit).evaluate
      (State.breaking breakdown choice) state).1 = .error error := by
  cases breakdown <;> exact ⟨_,rfl⟩

theorem not_backoffLaw_pair (settings : Settings) : ¬ BackoffLaw .pair settings := by
  intro law
  let inserted : List RelayAction := [.external (.insert .messaging sampleCommand 0)]
  obtain ⟨pool,ran,row,member,unsent,due,few,visited⟩ : ∃ pool,
      Machine.run (journaledWorld .pair settings).step (World.empty (sampleState,.blank)) inserted = some pool ∧
      ∃ row ∈ pool.shared.1.table .messaging, row.status ≠ .sent ∧ row.due (pool.shared.1.now + (0 : Nat)) = true ∧
        (eligible (pool.shared.1.table .messaging) (pool.shared.1.now + (0 : Nat))).length ≤ 1 ∧
        ∀ other ∈ pool.shared.1.table .messaging, other.id ∈ [1] :=
    ⟨_,rfl,sampleCommand.row 0,List.mem_singleton_self _,by decide,by decide,by decide,by decide⟩
  have reached : (journaledWorld .pair settings).Reach (World.Unghosted Budgeted) (sampleState,.blank) pool :=
    Machine.run_reaches ran ⟨fun _ happens => Option.some.inj happens ▸ rfl,fun _ _ => trivial⟩
  obtain ⟨after,completed,_⟩ := (law.2 0 (declaredPrefix 13) pool reached .messaging row member unsent).2 0
    (.noChannel (.ofMessage "Connection closed")) { scan := [1] } "relay" 1 rfl due few visited
  obtain ⟨error,rejected⟩ := Service.messaging.relay.runRelayTick_pair settings.engine
    (.noChannel (.ofMessage "Connection closed")) { scan := [1] } "relay" 1 _
  rw [completed] at rejected
  cases rejected

/-- The law holds of the relays exactly when `dataSource.query` resolves to the rows themselves. -/
theorem backoff_run_law_iff (settings : Settings) (shape : ResultShape) :
    BackoffLaw shape.driver settings ↔ shape = .rows := by
  cases shape with
  | rows => exact iff_of_true (backoffLaw_rows settings) rfl
  | pair => exact iff_of_false (not_backoffLaw_pair settings) ResultShape.noConfusion

set_option maxRecDepth 4000 in
theorem breaking_tick_follows_law : ∃ pool : Pool (State × Journal) Thrown Request (Reply returningRows),
    pool.shared.2.failures .messaging 1 = [5] ∧
    ∀ row ∈ pool.shared.1.table .messaging, row.FollowsLaw [5] (pool.shared.1.table .messaging) ∧
      row.FailsNext returningRows sampleSettings.engine .messaging
        { pool.shared.1 with now := pool.shared.1.now + 2005 }
        .backPressured { scan := [1],instant := 2010 } "relay" 25 := by
  obtain ⟨pool,reached,failures,pending,few⟩ : ∃ pool,
      (journaledWorld returningRows sampleSettings).Reach (World.Unghosted Budgeted) (sampleState,.blank) pool ∧
      pool.shared.2.failures .messaging 1 = [5] ∧
      (∀ row ∈ (pool.shared.1.table .messaging).rows, row.id = 1 ∧ row.status ≠ .sent ∧
        row.due (pool.shared.1.now + 2005) = true) ∧
      (eligible (pool.shared.1.table .messaging) (pool.shared.1.now + 2005)).length ≤ 25 := by
    let ran := Machine.run (journaledWorld returningRows sampleSettings).step (World.empty (sampleState,.blank))
      failedPublish
    exact ⟨ran.get (by decide +kernel),Machine.run_reaches (Option.some_get _).symm (by decide +kernel),
      by decide +kernel,by decide +kernel,by decide +kernel⟩
  refine ⟨pool,failures,?_⟩
  intro row member
  obtain ⟨id,unsent,due⟩ := pending row member
  obtain ⟨law,next⟩ := ((backoff_run_law_iff sampleSettings .rows).mpr rfl).2 0 (declaredPrefix 13) pool reached
    .messaging row member unsent
  rw [id,failures] at law
  refine ⟨law,next 2005 .backPressured { scan := [1],instant := 2010 } "relay" 25 rfl due few ?_⟩
  intro other among
  rw [(pending other among).1]
  exact List.mem_cons_self

/-- A tick that hands the pair of a due row over while the broker is away. -/
def unrecordedFailure : List RelayAction := [
  .external (.insert .messaging sampleCommand 0),
  .start (.runRelayTick .messaging "relay" 25),
  .resume 0 (.served { scan := [1] }),
  .resume 0 (.refused (.ofMessage "Connection closed")),
  .resume 0 (.served { instant := 5 })]

set_option maxRecDepth 4000 in
theorem unrecorded_failure_breaks_law : (∃ pool, Machine.run (journaledWorld .pair sampleSettings).step
      (World.empty (sampleState,.blank)) unrecordedFailure = some pool ∧
      (pool.shared.1.table .messaging).rows.map (fun row => (row.status,row.attempts,row.lastError)) =
        [(.pending,0,none)] ∧ pool.shared.2.failures .messaging 1 = []) ∧
    ¬ BackoffLaw ResultShape.pair.driver sampleSettings :=
  ⟨⟨_,rfl,by decide +kernel,rfl⟩,not_backoffLaw_pair sampleSettings⟩

end MessagingPlatform.Outbox
