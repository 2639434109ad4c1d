import MessagingPlatform.Consumer.Accounting

/-! The durable retry budget: between two clearings of its counter, only the deliveries of an event
whose count is within the budget are followed by another delivery. -/
namespace MessagingPlatform.Consumer

variable {settings : Settings} {fresh pid : Nat} {history : History} {before after state : State}

structure Accounted (settings : Settings) (pid : Nat) (state : State × History) (views : View × Budget) :
    Prop where
  informed : Informed settings pid state.1 views.1
  known : Known pid state.2 views.2
  event : views.1.eventId = views.2.eventId
  concluded : views.2.concluded = true → views.1.phase = .committed ∨ views.1.phase = .duplicate

theorem View.observe_eventId (view : View) (request : Request) (outcome : Except Thrown (Reply request)) :
    (view.observe request outcome).eventId = view.eventId := by
  cases request <;> cases outcome <;> rfl

theorem Budget.observe_eventId (budget : Budget) (request : Request) (outcome : Except Thrown (Reply request)) :
    (budget.observe request outcome).eventId = budget.eventId := by
  cases request with
  | nack requeue => cases requeue <;> cases outcome <;> rfl
  | count metric => cases metric <;> cases outcome <;> rfl
  | _ => cases outcome <;> rfl

theorem concluded_observe {view : View} {budget : Budget}
    (concluded : budget.concluded = true → view.phase = .committed ∨ view.phase = .duplicate)
    {request : Request} (allowed : (discipline settings).allows view request)
    (outcome : Except Thrown (Reply request)) (done : (budget.observe request outcome).concluded = true) :
    (view.observe request outcome).phase = .committed ∨ (view.observe request outcome).phase = .duplicate := by
  have running : ∀ phase : Phase, phase ≠ .committed → phase ≠ .duplicate → view.phase = phase →
      budget.concluded = false := by
    intro phase open_ new same
    by_contra ended
    rcases concluded (by simpa using ended) with other | other
    · exact open_ (same.symm.trans other)
    · exact new (same.symm.trans other)
  cases request with
  | startTransaction =>
    have unended := running .idle (by simp) (by simp) allowed
    cases outcome <;> exact absurd (unended.symm.trans done) (by simp)
  | saveProcessedEvent row =>
    have unended := running .opened (by simp) (by simp) allowed.1
    cases outcome with
    | ok saved => exact absurd (unended.symm.trans done) (by simp)
    | error error =>
      have violation : isUniqueViolation error = true := by simpa [Budget.observe,unended] using done
      exact .inr (if_pos violation)
  | saveMessage row =>
    have unended := running .recorded (by simp) (by simp) allowed
    cases outcome <;> exact absurd (unended.symm.trans done) (by simp)
  | saveOutboxEvent row =>
    have unended := running .stored (by simp) (by simp) allowed.1
    cases outcome <;> exact absurd (unended.symm.trans done) (by simp)
  | commitTransaction =>
    have unended := running .ready (by simp) (by simp) allowed
    cases outcome with
    | ok committed => exact .inl rfl
    | error error => exact absurd (unended.symm.trans done) (by simp)
  | nack requeue => cases requeue <;> cases outcome <;> exact concluded done
  | count metric => cases metric <;> cases outcome <;> exact concluded done
  | _ => cases outcome <;> exact concluded done

theorem Change.preserves (change : Change pid before after) : Preserves settings fresh before after where
  delivered other eventId _ event := change.delivers settings other eventId event
  processed _ processed := change.processed processed

theorem Accounted.event_delivered {state : State × History} {views : View × Budget}
    (accounted : Accounted settings pid state views) {eventId : String} (event : views.2.eventId = some eventId) :
    state.1.deliveredEvent settings pid = some eventId := by
  simp [State.deliveredEvent,accounted.informed.delivered,accounted.informed.carries,accounted.event,event]

theorem Accounted.processed {state : State × History} {views : View × Budget}
    (accounted : Accounted settings pid state views) (concluded : views.2.concluded = true) {eventId : String}
    (event : views.2.eventId = some eventId) : state.1.Processed eventId := by
  obtain ⟨other,same,processed⟩ := accounted.informed.concluded (accounted.concluded concluded)
  rw [accounted.event,event] at same
  exact Option.some.inj same ▸ processed

theorem State.deliver_budgeted {tag : Nat} {program : Program Unit}
    (started : state.deliver settings pid tag = some (program,after)) :
    budgeting.Follows program (.start (state.carriedBy settings tag)) Budget.Ends := by
  obtain ⟨⟨envelope,data,found,dispatched,rfl⟩,_⟩ := deliver_program started
  rw [carriedBy_found found]
  exact handleMessage_budgeted dispatched

theorem Balanced.serve (balanced : Balanced settings fresh history before) (below : pid < fresh)
    {views : View × Budget} (accounted : Accounted settings pid (before,history) views) {request : Request} {choice : Choice}
    {reply : Except Thrown (Reply request)} (allowed : budgeting.allows views.2 request)
    (served : before.serve pid request choice = some (reply,after)) :
    Balanced settings fresh (history ++ (request.note? before pid).toList) after := by
  obtain ⟨attempts,publishes⟩ := State.serve_noted served
  have preserves : Preserves settings fresh before after := (State.serve_changes served).preserves
  cases noted : request.note? before pid with
  | none =>
    rw [noted] at attempts publishes
    rw [Option.toList_none,List.append_nil]
    exact balanced.congr (Nat.le_refl fresh) preserves attempts (publishes.trans (List.append_nil _))
  | some note =>
    rw [noted] at attempts publishes
    have earned := accounted.known.earned balanced below (fun _ => accounted.event_delivered)
      (fun concluded _ => accounted.processed concluded) allowed noted
    exact balanced.append earned preserves attempts publishes

theorem note_pid {request : Request} {note : Note} (member : note ∈ (request.note? state pid).toList) {other : Nat}
    (apart : other ≠ pid) : note.pid? ≠ some other := by
  have noted := Option.mem_toList.mp member
  intro own
  apply apart
  cases request with
  | recordAttempt _ | publish _ _ =>
    obtain rfl := Option.some.inj noted
    exact (Option.some.inj own).symm
  | clearAttempts _ =>
    obtain rfl := Option.some.inj noted
    cases own
  | nack requeue =>
    cases requeue <;> obtain rfl := Option.some.inj noted <;> exact (Option.some.inj own).symm
  | count metric =>
    cases metric with
    | messagesFailed _ _ =>
      obtain rfl := Option.some.inj noted
      exact (Option.some.inj own).symm
    | messagesProcessed _ _ | retryCount _ => cases noted
  | _ => cases noted

/-- Every delivery that is counted, retried or dead-lettered is noted, and the notes stay within the budget
of the event. -/
theorem Balanced.sound (settings : Settings) : (budgetWorld settings).Sound ((discipline settings).prod budgeting)
    (fun views outcome => True ∧ views.2.Ends outcome) (World.Unghosted anything)
    (fun fresh state => Consistent settings fresh state.1 ∧ Balanced settings fresh state.2 state.1)
    (Accounted settings) where
  starts fresh state task program after holds _ started := by
    obtain ⟨consistent,balanced⟩ := holds
    obtain ⟨⟨other,next⟩,launched,same⟩ := Option.map_eq_some_iff.mp started
    obtain ⟨rfl,rfl⟩ := Prod.mk.inj same
    obtain ⟨tag⟩ := task
    obtain ⟨begun,informed,others⟩ := consistent.deliver launched
    obtain ⟨⟨envelope,_,follows⟩,shape⟩ := State.deliver_eq launched
    have unstarted : ∀ note ∈ state.2, note.pid? ≠ some fresh := by
      intro note member own
      exact absurd (balanced.started note member fresh own) (Nat.lt_irrefl fresh)
    have preserves : Preserves settings fresh state.1 next := by
      subst shape
      refine ⟨?_,fun _ processed => processed⟩
      intro pid eventId older event
      simp only [State.deliveredEvent,Function.update_of_ne older.ne]
      exact event
    have same : next.publishes = state.1.publishes := by rw [shape]; rfl
    have attempts : ∀ eventId, next.attempts eventId = state.1.attempts eventId := by
      intro eventId
      rw [shape]
      rfl
    refine ⟨⟨begun,balanced.congr (Nat.le_succ fresh) preserves attempts (congrArg _ same)⟩,?_,?_⟩
    · exact ⟨(_,_),⟨informed envelope.body,.start unstarted _,rfl,fun impossible => by cases impossible⟩,
        follows.prod (State.deliver_budgeted launched)⟩
    · intro pid older views accounted
      exact ⟨others pid older views.1 accounted.informed,accounted.known,accounted.event,accounted.concluded⟩
  serves fresh state pid views request answer choice reply after holds below accounted allowed _ chosen served := by
    obtain ⟨consistent,balanced⟩ := holds
    obtain ⟨performed,noted⟩ := World.withGhost_serve served
    have history : after.2 = state.2 ++ (request.note? state.1 pid).toList := noted
    obtain ⟨begun,outcomes,others⟩ := (Consistent.sound settings).serves fresh state.1 pid views.1 request answer
      choice reply after.1 consistent below accounted.informed allowed.1 trivial chosen performed
    refine ⟨⟨begun,?_⟩,?_,?_⟩
    · rw [history]
      exact balanced.serve below accounted allowed.2 performed
    · intro outcome possible
      obtain ⟨next,moved,informed⟩ := outcomes outcome possible
      refine ⟨(next,views.2.observe request outcome),⟨moved,rfl⟩,informed,?_,?_,?_⟩
      · rw [history]
        apply accounted.known.serve allowed.2 performed
        rcases possible with kept | ⟨error,_,lost⟩
        · exact .inl kept
        · exact .inr ⟨error,lost⟩
      · rw [moved.1,View.observe_eventId,Budget.observe_eventId]
        exact accounted.event
      · intro done
        rw [moved.1]
        exact concluded_observe accounted.concluded allowed.1 outcome done
    · intro other apart views accounted
      refine ⟨others other apart views.1 accounted.informed,?_,accounted.event,accounted.concluded⟩
      rw [history]
      exact accounted.known.append (fun _ member => note_pid member apart)
  refuses fresh state pid views request error holds accounted allowed fails := by
    obtain ⟨next,moved,informed⟩ := (Consistent.sound settings).refuses fresh state.1 pid views.1 request error
      holds.1 accounted.informed allowed.1 fails
    refine ⟨(next,views.2.observe request (.error error)),⟨moved,rfl⟩,informed,?_,?_,?_⟩
    · exact accounted.known.refused error allowed.2
    · rw [moved.1,View.observe_eventId,Budget.observe_eventId]
      exact accounted.event
    · intro done
      rw [moved.1]
      exact concluded_observe accounted.concluded allowed.1 _ done
  crashes _ _ _ holds _ := ⟨holds,fun _ _ _ accounted => accounted⟩
  externals fresh state event after holds _ happened := by
    obtain ⟨consistent,balanced⟩ := holds
    obtain ⟨next,performed,rfl⟩ := Option.map_eq_some_iff.mp happened
    obtain ⟨begun,others⟩ := consistent.external performed
    obtain ⟨grows,_⟩ := State.external_grows performed
    obtain ⟨attempts,publishes⟩ := State.external_noted performed
    have preserves : Preserves settings fresh state.1 next :=
      ⟨fun pid eventId _ event => grows.delivers pid eventId event,
        fun _ processed => State.external_processed performed processed⟩
    refine ⟨⟨begun,balanced.congr (Nat.le_refl fresh) preserves (fun _ => by rw [attempts]) publishes⟩,?_⟩
    intro pid views accounted
    exact ⟨others pid views.1 accounted.informed,accounted.known,accounted.event,accounted.concluded⟩

theorem Balanced.initial (settings : Settings) : Balanced settings 0 [] .initial where
  numbered _ := trivial
  current _ := rfl
  started _ member := by cases member
  delivered _ _ _ member := by cases member
  within _ _ _ member := by cases member
  counted _ impossible := by cases impossible
  cleared _ member := by cases member
  copies := rfl
  scheduledOnce := List.nodup_nil
  requeuedOnce := List.nodup_nil

def State.retryCopies (settings : Settings) (state : State) (eventId : String) : List RetryPublish :=
  state.publishes.filter (fun published => state.deliveredEvent settings published.publisher == some eventId)

def State.requeues (settings : Settings) (state : State) (history : History) (eventId : String) : List Nat :=
  (history.filterMap Note.requeuedBy?).filter (fun pid => state.deliveredEvent settings pid == some eventId)

namespace Balanced

/-- While an event is not processed, its counter is never cleared. -/
theorem followers_le (balanced : Balanced settings fresh history state) {eventId : String}
    (unprocessed : ¬ state.Processed eventId) {pids : List Nat} (distinct : pids.Nodup)
    (redelivered : ∀ pid ∈ pids, history.redelivered pid = true) :
    (pids.filter (fun pid => state.deliveredEvent settings pid == some eventId)).length ≤
      (RetryConfig.maxAttempts - 1).toNat := by
  have uncleared : .cleared eventId ∉ history := fun member => unprocessed (balanced.cleared eventId member)
  have whole : history = [] ++ history ++ [] := (List.append_nil history).symm
  have bound := balanced.redelivered_le whole uncleared
  have among : pids.filter (fun pid => state.deliveredEvent settings pid == some eventId) ⊆
      (history.filterMap (Note.recordedFor? eventId)).filter history.redelivered := by
    intro pid member
    obtain ⟨present,event⟩ := List.mem_filter.mp member
    obtain ⟨other,attempt,recorded⟩ := balanced.counted pid (redelivered pid present)
    have delivered := balanced.delivered pid other attempt recorded
    rw [beq_iff_eq,delivered] at event
    have same : other = eventId := Option.some.inj event
    have noted : pid ∈ history.filterMap (Note.recordedFor? eventId) :=
      List.mem_filterMap.mpr ⟨_,recorded,if_pos same⟩
    exact List.mem_filter.mpr ⟨noted,redelivered pid present⟩
  exact (List.Nodup.length_le_of_subset (distinct.filter _) among).trans bound

theorem retryCopies_le (balanced : Balanced settings fresh history state) {eventId : String}
    (unprocessed : ¬ state.Processed eventId) :
    (state.retryCopies settings eventId).length ≤ (RetryConfig.maxAttempts - 1).toNat := by
  have publishers : (state.retryCopies settings eventId).map RetryPublish.publisher =
      (history.filterMap Note.scheduledBy?).filter
        (fun pid => state.deliveredEvent settings pid == some eventId) := by
    rw [← balanced.copies,List.filter_map]
    rfl
  rw [← List.length_map RetryPublish.publisher,publishers]
  apply balanced.followers_le unprocessed balanced.scheduledOnce
  intro pid member
  exact History.redelivered_iff.mpr (.inl member)

theorem requeues_le (balanced : Balanced settings fresh history state) {eventId : String}
    (unprocessed : ¬ state.Processed eventId) :
    (state.requeues settings history eventId).length ≤ (RetryConfig.maxAttempts - 1).toNat := by
  apply balanced.followers_le unprocessed balanced.requeuedOnce
  intro pid member
  exact History.redelivered_iff.mpr (.inr member)

theorem unredelivered (balanced : Balanced settings fresh history state) {eventId : String} {attempt : Int}
    (recorded : .recorded pid eventId attempt ∈ history) (beyond : RetryConfig.maxAttempts ≤ attempt) :
    history.redelivered pid = false := by
  by_contra spent
  have within := balanced.within pid eventId attempt recorded (by simpa using spent)
  omega

end Balanced

theorem Known.deadLettered {budget : Budget} (known : Known pid history budget) {eventId : String} {attempt : Int}
    (recorded : .recorded pid eventId attempt ∈ history) (beyond : RetryConfig.maxAttempts ≤ attempt)
    (failed : .failed pid ∈ history) (ends : budget.Ends (.ok ())) : .deadLettered pid ∈ history := by
  have asked : budget.asked = true := by
    by_contra unasked
    exact (known.unasked (by simpa using unasked)).2 eventId attempt recorded
  obtain ⟨count,counted,exhausted⟩ := ends (known.failed failed) asked
  have same := (known.counted count counted).2 eventId attempt recorded
  exact known.dead (exhausted (same ▸ beyond))

theorem budget_pos : ((RetryConfig.maxAttempts - 1).toNat : Int) = RetryConfig.maxAttempts - 1 := by decide

/-- The retry budget is durable. Of the deliveries that are counted while the counter is not cleared, at
most four are followed by a retry copy or a requeue. A delivery that is counted beyond the budget is
followed by neither, and when it fails and its handler returns, it is dead-lettered. An event that is
never processed has at most four retry copies and at most four requeues, however it is replayed, and
the counter is cleared only for a processed event. -/
theorem durable_retry_budget (settings : Settings) {pool : BudgetPool}
    (reached : (budgetWorld settings).Reach (World.Unghosted anything) (.initial,[]) pool) :
    (∀ eventId earlier segment later, pool.shared.2 = earlier ++ segment ++ later →
      .cleared eventId ∉ segment →
      (((segment.filterMap (Note.recordedFor? eventId)).filter
        (History.redelivered pool.shared.2)).length : Int) ≤ RetryConfig.maxAttempts - 1) ∧
    (∀ pid eventId attempt, .recorded pid eventId attempt ∈ pool.shared.2 → RetryConfig.maxAttempts ≤ attempt →
      History.redelivered pool.shared.2 pid = false ∧
      (.failed pid ∈ pool.shared.2 → pool.program pid = some (.resolve ()) →
        .deadLettered pid ∈ pool.shared.2)) ∧
    (∀ eventId, ¬ pool.shared.1.Processed eventId →
      ((pool.shared.1.retryCopies settings eventId).length : Int) ≤ RetryConfig.maxAttempts - 1 ∧
      ((pool.shared.1.requeues settings pool.shared.2 eventId).length : Int) ≤ RetryConfig.maxAttempts - 1) ∧
    ∀ pid eventId next, pool.program pid = some (.await (.clearAttempts eventId) next) →
      pool.shared.1.Processed eventId := by
  obtain ⟨⟨consistent,balanced⟩,views⟩ := World.reach_coherent (Balanced.sound settings)
    ⟨Consistent.initial settings,Balanced.initial settings⟩ reached
  refine ⟨?_,?_,?_,?_⟩
  · intro eventId earlier segment later split uncleared
    rw [← budget_pos]
    exact Int.ofNat_le.mpr (balanced.redelivered_le split uncleared)
  · intro pid eventId attempt recorded beyond
    refine ⟨balanced.unredelivered recorded beyond,?_⟩
    intro failed returned
    obtain ⟨_,views,accounted,_,ends⟩ := views pid _ returned
    exact accounted.known.deadLettered recorded beyond failed ends
  · intro eventId unprocessed
    rw [← budget_pos]
    constructor
    · exact Int.ofNat_le.mpr (balanced.retryCopies_le unprocessed)
    · exact Int.ofNat_le.mpr (balanced.requeues_le unprocessed)
  · intro pid eventId next running
    obtain ⟨_,views,accounted,follows⟩ := views pid _ running
    obtain ⟨concluded,event⟩ := follows.1.2
    exact accounted.processed concluded event

/-- Without the history: an event that is never processed has at most four retry copies. -/
theorem unprocessed_retryCopies_le (settings : Settings) {pool : ConsumerPool}
    (reached : (consumerWorld settings).Reach anything .initial pool) {eventId : String}
    (unprocessed : ¬ pool.shared.Processed eventId) :
    (pool.shared.retryCopies settings eventId).length ≤ (RetryConfig.maxAttempts - 1).toNat := by
  obtain ⟨haunted,rfl,noted⟩ := (@World.reach_ghost_iff _ _ _ _ _ _ _ _ _ History.note _ _ [] _).mp reached
  obtain ⟨_,balanced⟩ := World.reach_inv (Balanced.sound settings)
    ⟨Consistent.initial settings,Balanced.initial settings⟩ noted
  exact balanced.retryCopies_le unprocessed

def budgetRun (actions : List ConsumerAction) : Option BudgetPool :=
  Machine.run (budgetWorld sampleSettings).step (World.empty (.initial,[])) actions

/-- A delivery whose transaction cannot start, and whose retry copy is taken but not confirmed. -/
def unconfirmedRetry (pid : Nat) : List ConsumerAction :=
  [.start (.deliver 0)] ++ List.replicate 4 (.resume pid (.served {})) ++
  [.resume pid (.refused ⟨.error,"Error","Connection terminated",some "ECONNRESET",none⟩)] ++
  List.replicate 5 (.resume pid (.served {})) ++ [.external (.route pid)] ++
  [.resume pid (.refused ⟨.error,"Error","Channel closed",none,none⟩),.resume pid (.served {})]

def unconfirmedRetries : List ConsumerAction :=
  [.external (.enqueue sampleDelivery.content sampleDelivery.headers)] ++
  [0,1,2].flatMap unconfirmedRetry

/-- A fourth such delivery spends the budget, and the fifth is dead-lettered. -/
def exhaustedBudget : List ConsumerAction :=
  unconfirmedRetries ++ unconfirmedRetry 3 ++ [.start (.deliver 0)] ++
  List.replicate 4 (.resume 4 (.served {})) ++
  [.resume 4 (.refused ⟨.error,"Error","Connection terminated",some "ECONNRESET",none⟩)] ++
  List.replicate 3 (.resume 4 (.served {}))

def clearedBudget : List ConsumerAction :=
  [.external (.enqueue sampleDelivery.content sampleDelivery.headers),.start (.deliver 0)] ++
  List.replicate 15 (.resume 0 (.served {}))

set_option maxRecDepth 8000 in
theorem exhausted_budget_durable : (∃ pool, budgetRun exhaustedBudget = some pool ∧
    History.redelivered pool.shared.2 3 = true ∧ History.redelivered pool.shared.2 4 = false ∧
    .deadLettered 4 ∈ pool.shared.2 ∧
    (((pool.shared.2.filterMap (Note.recordedFor? "11111111-1111-4111-8111-111111111111")).filter
      (History.redelivered pool.shared.2)).length : Int) ≤ RetryConfig.maxAttempts - 1) ∧
    ∃ pool next, budgetRun clearedBudget = some pool ∧
      pool.program 0 = some (.await (.clearAttempts "11111111-1111-4111-8111-111111111111") next) ∧
      pool.shared.1.Processed "11111111-1111-4111-8111-111111111111" := by
  constructor
  · let pool := (budgetRun exhaustedBudget).get (by decide)
    have reached : (budgetWorld sampleSettings).Reach (World.Unghosted anything) (.initial,[]) pool :=
      Machine.run_reaches (Option.some_get _).symm (by decide)
    obtain ⟨bounded,beyond,_,_⟩ := durable_retry_budget sampleSettings reached
    obtain ⟨unspent,dead⟩ := beyond 4 "11111111-1111-4111-8111-111111111111" 5 (by decide) (by decide)
    have whole : pool.shared.2 = [] ++ pool.shared.2 ++ [] := (List.append_nil _).symm
    exact ⟨pool,(Option.some_get _).symm,by decide,unspent,dead (by decide) rfl,
      bounded _ [] pool.shared.2 [] whole (by decide)⟩
  · let pool := (budgetRun clearedBudget).get (by decide)
    have reached : (budgetWorld sampleSettings).Reach (World.Unghosted anything) (.initial,[]) pool :=
      Machine.run_reaches (Option.some_get _).symm (by decide)
    obtain ⟨_,_,_,clears⟩ := durable_retry_budget sampleSettings reached
    exact ⟨pool,_,(Option.some_get _).symm,rfl,clears 0 _ _ rfl⟩

set_option maxRecDepth 8000 in
theorem redeliveries_exceed_budget : ¬ ∀ settings (pool : BudgetPool),
    (budgetWorld settings).Reach (World.Unghosted anything) (.initial,[]) pool →
    ∀ eventId, ¬ pool.shared.1.Processed eventId →
      ((((pool.shared.1.retryCopies settings eventId).filter (fun copy => copy.fate == .enqueued)).length +
        (pool.shared.1.requeues settings pool.shared.2 eventId).length : Nat) : Int) ≤
        RetryConfig.maxAttempts - 1 := by
  intro bounded
  let pool := (budgetRun unconfirmedRetries).get (by decide)
  have reached : (budgetWorld sampleSettings).Reach (World.Unghosted anything) (.initial,[]) pool :=
    Machine.run_reaches (Option.some_get _).symm (by decide)
  have unstarted : pool.shared.1.transactions.rows.isEmpty = true := by decide
  have unprocessed : ¬ pool.shared.1.Processed "11111111-1111-4111-8111-111111111111" := by
    intro processed
    obtain ⟨transaction,member,_⟩ := processed
    have present : transaction ∈ pool.shared.1.transactions.rows := member
    rw [List.isEmpty_iff.mp unstarted] at present
    cases present
  exact absurd (bounded sampleSettings pool reached _ unprocessed) (by decide)

end MessagingPlatform.Consumer
